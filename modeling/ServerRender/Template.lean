import ServerRender.Json.Writer
import ServerRender.RenderError
import ServerRender.Text.Blank
import ServerRender.Text.Split

/-!
# Wrapper templates

A wrapper is a snippet of script with tags between double braces. A tag names the
component, the requested path or the props, and the filter `json` after a bar makes
the value a string literal. The rendered snippet stands in a fixed harness: the
harness calls the `prerender` function that the snippet defines and keeps what the
function passes to its callback as `outputValue`; if the call throws, it keeps the
stack of the error and throws it again.
-/

namespace ServerRender

namespace Template

inductive Variable where
  | component
  | urlPath
  | props
  deriving DecidableEq

inductive Filter where
  | raw
  | json
  deriving DecidableEq

inductive Segment where
  | text (characters : List Char)
  | placeholder (name : Variable) (filter : Filter)
  deriving DecidableEq

/-- What a render puts in place of the tags. -/
structure Values where
  component : String
  urlPath : String
  props : String

def openTag : List Char := ['\x7b', '\x7b']

def closeTag : List Char := ['\x7d', '\x7d']

def parseVariable (name : List Char) : Except TemplateProblem Variable :=
  match String.ofList name with
  | "component" => .ok .component
  | "url_path" => .ok .urlPath
  | "props" => .ok .props
  | other => .error (.unknownVariable other)

def parseFilter (name : List Char) : Except TemplateProblem Filter :=
  match String.ofList name with
  | "json" => .ok .json
  | other => .error (.unknownFilter other)

/-- The text between two tags' braces: a variable, and a filter after a bar. -/
def parseTag (tag : List Char) : Except TemplateProblem Segment :=
  match Text.splitFirst? ['|'] tag with
  | some (name, filter) => do
    let name ← parseVariable (Text.trim name)
    return .placeholder name (← parseFilter (Text.trim filter))
  | none => do
    return .placeholder (← parseVariable (Text.trim tag)) .raw

def byteLength (text : List Char) : Nat :=
  text.foldr (fun c total => c.utf8Size + total) 0

/-- The segments of a text that starts at a byte of the snippet. -/
def parseFrom (byte : Nat) (text : List Char) : Except TemplateProblem (List Segment) :=
  match hopen : Text.splitFirst? openTag text with
  | none => .ok (if text.isEmpty then [] else [.text text])
  | some (before, after) =>
    match hclose : Text.splitFirst? closeTag after with
    | none => .error (.unterminated (byte + byteLength before))
    | some (tag, rest) => do
      have : rest.length < text.length := by
        have := Text.eq_of_splitFirst? hopen
        have := Text.eq_of_splitFirst? hclose
        simp_all [openTag, closeTag]
        omega
      let segment ← parseTag tag
      let following ← parseFrom (byte + byteLength before + byteLength tag + 4) rest
      return (if before.isEmpty then [] else [.text before]) ++ segment :: following
termination_by text.length

end Template

structure Template where
  segments : List Template.Segment
  deriving DecidableEq, Inhabited

namespace Template

def parse (snippet : String) : Except TemplateProblem Template :=
  (parseFrom 0 snippet.toList).map Template.mk

def Values.get (values : Values) : Variable → String
  | .component => values.component
  | .urlPath => values.urlPath
  | .props => values.props

def Segment.render (values : Values) : Segment → List Char
  | .text characters => characters
  | .placeholder name .raw => (values.get name).toList
  | .placeholder name .json => Json.literal (values.get name).toList

def render (template : Template) (values : Values) : String :=
  String.ofList (template.segments.flatMap (Segment.render values))

/-- The lines of the harness before the snippet. -/
def harnessHead : String :=
  "(function () \x7b\n" ++
  "  var __output__ = \x7b outputValue: null \x7d;\n" ++
  "  var __done__ = function (value) \x7b\n" ++
  "    __output__.outputValue = value;\n" ++
  "  \x7d;\n" ++
  "\n" ++
  "  function prerender(done) \x7b\x7d\n" ++
  "\n"

/-- The lines of the harness after the snippet. -/
def harnessTail : String :=
  "\n" ++
  "\n" ++
  "  try \x7b\n" ++
  "    prerender(__done__);\n" ++
  "  \x7d catch (e) \x7b\n" ++
  "    __output__.outputValue = (e && e.stack) ? String(e.stack) : String(e);\n" ++
  "    throw e;\n" ++
  "  \x7d\n" ++
  "  return __output__;\n" ++
  "\x7d)()"

/-- The complete script of one render. -/
def wrapperScript (template : Template) (values : Values) : String :=
  harnessHead ++ template.render values ++ harnessTail

end Template

end ServerRender
