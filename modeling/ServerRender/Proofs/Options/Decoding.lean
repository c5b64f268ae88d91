import Mathlib.Data.List.Induction
import ServerRender.Options.Decoding

/-!
# Options that are decoded

Options come as objects of known keys or as arrays of their fields in order.  Which of them
are decoded, and to what, is said here of the members that a value gives: every member has a
name that is known and a value of its kind, the last member of a name counts, and a name
without a member has its default.  Pool options and configurations are both records of two
fields, so that one theorem serves for them.
-/

namespace ServerRender

/-- A field of a record: its name, what is read as a value of it, and what it is if nothing is
given. -/
structure Field (Value : Type) where
  name : String
  Reads : Json → Value → Prop
  default : Value

namespace Field

variable {Value : Type} {field : Field Value} {members : List (String × Json)}

def Takes (field : Field Value) (member : String × Json) : Prop :=
  member.1 = field.name ∧ ∃ value, field.Reads member.2 value

/-- The value of a field is the one of the last member of its name, or else the default. -/
def Settled (field : Field Value) (members : List (String × Json)) (value : Value) : Prop :=
  match members.reverse.lookup field.name with
  | some json => field.Reads json value
  | none => value = field.default

theorem Settled.unique {value other : Value}
    (hreads : ∀ {json value other}, field.Reads json value → field.Reads json other →
      value = other)
    (hvalue : field.Settled members value) (hother : field.Settled members other) :
    value = other := by
  unfold Settled at hvalue hother
  split at hvalue
  · next json hfound =>
    rw [hfound] at hother
    exact hreads hvalue hother
  · next hnone =>
    rw [hnone] at hother
    exact hvalue.trans hother.symm

theorem settled_concat_of_eq {name : String} {json : Json} {value : Value}
    (hname : name = field.name) (hreads : field.Reads json value) :
    field.Settled (members ++ [(name, json)]) value := by
  subst hname
  rw [Settled, List.reverse_concat, List.lookup_cons_self]
  exact hreads

theorem settled_concat_of_ne {member : String × Json} {value : Value}
    (hname : member.1 ≠ field.name) (hsettled : field.Settled members value) :
    field.Settled (members ++ [member]) value := by
  have hother : (field.name == member.1) = false := by simpa using Ne.symm hname
  obtain ⟨name, json⟩ := member
  rw [Settled, List.reverse_concat, List.lookup_cons, hother]
  exact hsettled

end Field

/-- The members of an object, or the items of an array under the names in their order. -/
inductive Gives (names : List String) : Json → List (String × Json) → Prop
  | object (members : List (String × Json)) : Gives names (.object members) members
  | array (items : List Json) (hlength : items.length ≤ names.length) :
      Gives names (.array items) (names.zip items)

variable {First Second Record Error : Type} {first : Field First} {second : Field Second}

/-- Two fields as members fill them, each of which gives one of them. -/
structure Fills (first : Field First) (second : Field Second) (members : List (String × Json))
    (value : First) (other : Second) : Prop where
  known : ∀ member ∈ members, first.Takes member ∨ second.Takes member
  settled : first.Settled members value
  settled_other : second.Settled members other

/-- A value that gives members for two fields, and what it makes of them. -/
def Describes (first : Field First) (second : Field Second) (json : Json) (value : First)
    (other : Second) : Prop :=
  ∃ members, Gives [first.name, second.name] json members ∧
    Fills first second members value other

structure TakesOver (first : Field First) (second : Field Second) (make : First → Second → Record)
    (step : Record → String × Json → Except Error Record) : Prop where
  name_ne : first.name ≠ second.name
  unique : ∀ {json value other}, first.Reads json value → first.Reads json other → value = other
  unique_other : ∀ {json value other}, second.Reads json value → second.Reads json other →
    value = other
  step_iff : ∀ {value other member next}, step (make value other) member = .ok next ↔
    (member.1 = first.name ∧ ∃ read, first.Reads member.2 read ∧ make read other = next) ∨
    (member.1 = second.name ∧ ∃ read, second.Reads member.2 read ∧ make value read = next)

namespace TakesOver

variable {make : First → Second → Record} {step : Record → String × Json → Except Error Record}
variable {members : List (String × Json)}

/-- One member after the other is taken over if each gives one of the fields, and the fields
are then as the members fill them. -/
theorem exists_fills (htakes : TakesOver first second make step)
    (hknown : ∀ member ∈ members, first.Takes member ∨ second.Takes member) :
    ∃ value other, Fills first second members value other ∧
      members.foldlM step (make first.default second.default) = .ok (make value other) := by
  induction members using List.reverseRecOn with
  | nil => exact ⟨_, _, ⟨hknown, rfl, rfl⟩, rfl⟩
  | append_singleton members member ih =>
    obtain ⟨value, other, hfills, hfold⟩ :=
      ih fun member hmember => hknown member (List.mem_append_left _ hmember)
    have hlast : ∀ {next}, step (make value other) member = .ok next →
        (members ++ [member]).foldlM step (make first.default second.default) = .ok next := by
      intro next hstep
      simp [List.foldlM_append, hfold, hstep, bind, Except.bind, pure, Except.pure]
    rcases hknown member (by simp) with ⟨hname, read, hread⟩ | ⟨hname, read, hread⟩
    · refine ⟨read, other, ⟨hknown, Field.settled_concat_of_eq hname hread, ?_⟩,
        hlast (htakes.step_iff.mpr (.inl ⟨hname, read, hread, rfl⟩))⟩
      exact Field.settled_concat_of_ne (hname ▸ htakes.name_ne) hfills.settled_other
    · refine ⟨value, read, ⟨hknown, ?_, Field.settled_concat_of_eq hname hread⟩,
        hlast (htakes.step_iff.mpr (.inr ⟨hname, read, hread, rfl⟩))⟩
      exact Field.settled_concat_of_ne (hname ▸ htakes.name_ne.symm) hfills.settled

/-- A member that is taken over gives one of the fields. -/
theorem takes_of_step (htakes : TakesOver first second make step) {value : First}
    {other : Second} {member : String × Json} {next : Record}
    (hstep : step (make value other) member = .ok next) :
    first.Takes member ∨ second.Takes member := by
  rcases htakes.step_iff.mp hstep with ⟨hname, read, hread, -⟩ | ⟨hname, read, hread, -⟩
  · exact .inl ⟨hname, read, hread⟩
  · exact .inr ⟨hname, read, hread⟩

/-- Members that are taken over each give one of the fields. -/
theorem known_of_foldlM (htakes : TakesOver first second make step) {result : Record}
    (hfold : members.foldlM step (make first.default second.default) = .ok result) :
    ∀ member ∈ members, first.Takes member ∨ second.Takes member := by
  induction members using List.reverseRecOn generalizing result with
  | nil => simp
  | append_singleton members member ih =>
    rw [List.foldlM_append] at hfold
    cases hbefore : members.foldlM step (make first.default second.default) with
    | error error =>
      rw [hbefore] at hfold
      contradiction
    | ok before =>
      have hknown := ih hbefore
      obtain ⟨value, other, -, hvalue⟩ := htakes.exists_fills hknown
      obtain rfl : make value other = before := Except.ok.inj (hvalue.symm.trans hbefore)
      rw [List.forall_mem_append]
      refine ⟨hknown, ?_⟩
      simp only [List.mem_singleton, forall_eq]
      cases hstep : step (make value other) member with
      | error error =>
        simp [hbefore, hstep, bind, Except.bind] at hfold
      | ok next => exact htakes.takes_of_step hstep

/-- Members are taken over exactly if they fill the fields. -/
theorem foldlM_eq_ok_iff (htakes : TakesOver first second make step) {result : Record} :
    members.foldlM step (make first.default second.default) = .ok result ↔
      ∃ value other, Fills first second members value other ∧ make value other = result := by
  constructor
  · intro hfold
    obtain ⟨value, other, hfills, hvalue⟩ := htakes.exists_fills (htakes.known_of_foldlM hfold)
    exact ⟨value, other, hfills, Except.ok.inj (hvalue.symm.trans hfold)⟩
  · rintro ⟨value, other, hfills, rfl⟩
    obtain ⟨found, foundOther, hfound, hfold⟩ := htakes.exists_fills hfills.known
    obtain rfl := hfound.settled.unique htakes.unique hfills.settled
    obtain rfl := hfound.settled_other.unique htakes.unique_other hfills.settled_other
    exact hfold

end TakesOver

/-! ## Pool options -/

/-- A number of sixty-four bits as it stands in JSON. -/
def IsWord (json : Json) (word : UInt64) : Prop :=
  json = .ofNat word.toNat

theorem decodeWord_eq_ok_iff {expected : String} {json : Json} {word : UInt64} :
    decodeWord expected json = .ok word ↔ IsWord json word := by
  unfold decodeWord IsWord Json.ofNat Json.ofInt
  split
  · next value =>
    constructor
    · intro hdecode
      split at hdecode
      · next hrange =>
        obtain rfl := Except.ok.inj hdecode
        have hlt : value.toNat < UInt64.size := by omega
        rw [UInt64.toNat_ofNat_of_lt' hlt, Int.toNat_of_nonneg hrange.1]
      · contradiction
    · intro hword
      obtain rfl : value = word.toNat := by simpa using hword
      have hlt : word.toNat < UInt64.size := word.toNat_lt
      rw [if_pos ⟨Int.natCast_nonneg _, Int.ofNat_lt.mpr hlt⟩]
      simp
  · next hother =>
    constructor
    · intro hdecode
      contradiction
    · intro hword
      exact absurd hword (hother _)

/-- What is decoded only in one way is one value. -/
theorem unique_of_eq_ok_iff {Error Value : Type} {decode : Json → Except Error Value}
    {Reads : Json → Value → Prop}
    (hdecode : ∀ json value, decode json = .ok value ↔ Reads json value) {json : Json}
    {value other : Value} (hvalue : Reads json value) (hother : Reads json other) :
    value = other :=
  Except.ok.inj (((hdecode json value).mpr hvalue).symm.trans ((hdecode json other).mpr hother))

theorem map_eq_ok_iff {Error Value Record : Type} {result : Except Error Value}
    {change : Value → Record} {next : Record} :
    result.map change = .ok next ↔ ∃ value, result = .ok value ∧ change value = next := by
  cases result <;> simp [Except.map]

namespace PoolOptions

variable {json : Json} {options next : PoolOptions}

def sizeField : Field UInt64 :=
  ⟨"size", IsWord, 10⟩

def timeoutField : Field UInt64 :=
  ⟨"timeout", IsWord, 20⟩

/-- The options that a value is read as, whether or not a pool can be made with them. -/
def IsReadAs (json : Json) (options : PoolOptions) : Prop :=
  Describes sizeField timeoutField json options.size options.timeout

theorem takesOver : TakesOver sizeField timeoutField mk decodeMember where
  name_ne := by decide
  unique := unique_of_eq_ok_iff (@decodeWord_eq_ok_iff "usize")
  unique_other := unique_of_eq_ok_iff (@decodeWord_eq_ok_iff "u64")
  step_iff := by
    intro size timeout member next
    unfold decodeMember
    split
    · next hname =>
      rw [map_eq_ok_iff]
      simp [hname, decodeSize, decodeWord_eq_ok_iff, sizeField, timeoutField, withSize]
    · next hname =>
      rw [map_eq_ok_iff]
      simp [hname, decodeTimeout, decodeWord_eq_ok_iff, sizeField, timeoutField, withTimeout]
    · next hsize htimeout =>
      have hsize : member.1 ≠ "size" := hsize
      have htimeout : member.1 ≠ "timeout" := htimeout
      simp [sizeField, timeoutField, hsize, htimeout]

theorem foldlM_eq_ok_iff {members : List (String × Json)} :
    members.foldlM decodeMember defaults = .ok options ↔
      Fills sizeField timeoutField members options.size options.timeout := by
  refine takesOver.foldlM_eq_ok_iff.trans ⟨?_, fun hfills => ⟨_, _, hfills, rfl⟩⟩
  rintro ⟨size, timeout, hfills, rfl⟩
  exact hfills

/-- Items of an array are taken over like members of their names. -/
theorem decode_array_eq_ok_iff {items : List Json} :
    decode (.array items) = .ok options ↔
      items.length ≤ 2 ∧
        (["size", "timeout"].zip items).foldlM decodeMember defaults = .ok options := by
  match items with
  | [] => simp [decode, pure, Except.pure]
  | [size] =>
    cases hsize : decodeSize size <;>
      simp [decode, decodeMember, hsize, Except.map, bind, Except.bind, pure, Except.pure]
  | [size, timeout] =>
    cases hsize : decodeSize size <;> cases htimeout : decodeTimeout timeout <;>
      simp [decode, decodeMember, hsize, htimeout, Except.map, bind, Except.bind, pure,
        Except.pure]
  | size :: timeout :: item :: rest =>
    cases hsize : decodeSize size <;> cases htimeout : decodeTimeout timeout <;>
      simp [decode, hsize, htimeout, bind, Except.bind, throw, throwThe, MonadExceptOf.throw]

theorem decode_eq_ok_iff : decode json = .ok options ↔ IsReadAs json options := by
  constructor
  · intro hdecode
    cases json with
    | object members => exact ⟨members, .object members, foldlM_eq_ok_iff.mp hdecode⟩
    | array items =>
      obtain ⟨hlength, hfold⟩ := decode_array_eq_ok_iff.mp hdecode
      exact ⟨_, .array items hlength, foldlM_eq_ok_iff.mp hfold⟩
    | _ => contradiction
  · rintro ⟨members, hgives, hfills⟩
    have hfold := foldlM_eq_ok_iff.mpr hfills
    cases hgives with
    | object => exact hfold
    | array items hlength => exact decode_array_eq_ok_iff.mpr ⟨hlength, hfold⟩

end PoolOptions

/-! ## Configurations -/

namespace RenderMode

/-- How a mode is named: by a text, or by an object with this name as its only key and nothing
in it. -/
def Names (json : Json) (mode : RenderMode) : Prop :=
  json = .string mode.name ∨ json = .object [(mode.name, .null)]

theorem ofName?_eq_some_iff {name : String} {mode : RenderMode} :
    ofName? name = some mode ↔ name = mode.name := by
  unfold ofName?
  split
  · cases mode <;> decide
  · cases mode <;> decide
  · next hdevelopment hproduction =>
    cases mode
    · exact ⟨fun hnone => by contradiction, fun hname => absurd hname hdevelopment⟩
    · exact ⟨fun hnone => by contradiction, fun hname => absurd hname hproduction⟩

theorem ofNameOrError_eq_ok_iff {name : String} {mode : RenderMode} :
    ofNameOrError name = .ok mode ↔ name = mode.name := by
  rw [← ofName?_eq_some_iff, ofNameOrError]
  cases ofName? name <;> simp

theorem decode_eq_ok_iff {json : Json} {mode : RenderMode} :
    decode json = .ok mode ↔ Names json mode := by
  unfold decode Names
  split
  · next name => simp [ofNameOrError_eq_ok_iff]
  · next name content =>
    simp only [reduceCtorEq, false_or, Json.object.injEq, List.cons.injEq, Prod.mk.injEq,
      ← ofNameOrError_eq_ok_iff]
    cases ofNameOrError name <;> cases content <;>
      simp [bind, Except.bind, pure, Except.pure, throw, throwThe, MonadExceptOf.throw]
  · next members hmembers =>
    constructor
    · intro hdecode
      contradiction
    · rintro (hname | hname)
      · contradiction
      · exact absurd (Json.object.inj hname) (hmembers _ _)
  · next hstring hobject hmembers =>
    constructor
    · intro hdecode
      contradiction
    · rintro (hname | hname)
      · exact absurd hname (hstring _)
      · exact absurd hname (hobject _ _)

end RenderMode

namespace RendererConfig

variable {json : Json} {config next : RendererConfig}

def poolField : Field PoolOptions :=
  ⟨"pool", PoolOptions.IsReadAs, .defaults⟩

def modeField : Field RenderMode :=
  ⟨"mode", RenderMode.Names, .production⟩

/-- The configuration that a value is read as. -/
def IsReadAs (json : Json) (config : RendererConfig) : Prop :=
  Describes poolField modeField json config.pool config.mode

theorem takesOver : TakesOver poolField modeField mk decodeMember where
  name_ne := by decide
  unique := unique_of_eq_ok_iff @PoolOptions.decode_eq_ok_iff
  unique_other := unique_of_eq_ok_iff @RenderMode.decode_eq_ok_iff
  step_iff := by
    intro pool mode member next
    unfold decodeMember
    split
    · next hname =>
      rw [map_eq_ok_iff]
      simp [hname, PoolOptions.decode_eq_ok_iff, poolField, modeField, withPool]
    · next hname =>
      rw [map_eq_ok_iff]
      simp [hname, RenderMode.decode_eq_ok_iff, poolField, modeField, withMode]
    · next hpool hmode =>
      have hpool : member.1 ≠ "pool" := hpool
      have hmode : member.1 ≠ "mode" := hmode
      simp [poolField, modeField, hpool, hmode]

theorem foldlM_eq_ok_iff {members : List (String × Json)} :
    members.foldlM decodeMember defaults = .ok config ↔
      Fills poolField modeField members config.pool config.mode := by
  refine takesOver.foldlM_eq_ok_iff.trans ⟨?_, fun hfills => ⟨_, _, hfills, rfl⟩⟩
  rintro ⟨pool, mode, hfills, rfl⟩
  exact hfills

theorem decode_array_eq_ok_iff {items : List Json} :
    decode (.array items) = .ok config ↔
      items.length ≤ 2 ∧ (["pool", "mode"].zip items).foldlM decodeMember defaults = .ok config := by
  match items with
  | [] => simp [decode, pure, Except.pure]
  | [pool] =>
    cases hpool : PoolOptions.decode pool <;>
      simp [decode, decodeMember, hpool, Except.map, bind, Except.bind, pure, Except.pure]
  | [pool, mode] =>
    cases hpool : PoolOptions.decode pool <;> cases hmode : RenderMode.decode mode <;>
      simp [decode, decodeMember, hpool, hmode, Except.map, bind, Except.bind, pure, Except.pure]
  | pool :: mode :: item :: rest =>
    cases hpool : PoolOptions.decode pool <;> cases hmode : RenderMode.decode mode <;>
      simp [decode, hpool, hmode, bind, Except.bind, throw, throwThe, MonadExceptOf.throw]

theorem decode_eq_ok_iff : decode json = .ok config ↔ IsReadAs json config := by
  constructor
  · intro hdecode
    cases json with
    | object members => exact ⟨members, .object members, foldlM_eq_ok_iff.mp hdecode⟩
    | array items =>
      obtain ⟨hlength, hfold⟩ := decode_array_eq_ok_iff.mp hdecode
      exact ⟨_, .array items hlength, foldlM_eq_ok_iff.mp hfold⟩
    | _ => contradiction
  · rintro ⟨members, hgives, hfills⟩
    have hfold := foldlM_eq_ok_iff.mpr hfills
    cases hgives with
    | object => exact hfold
    | array items hlength => exact decode_array_eq_ok_iff.mpr ⟨hlength, hfold⟩

end RendererConfig

end ServerRender
