import ServerRender.CodeCache
import ServerRender.CommandLine.Outcome
import ServerRender.Diagnosis
import ServerRender.Engine.Scripted
import ServerRender.Main
import ServerRender.Options.Decoding
import ServerRender.Proofs.LoadRecord
import ServerRender.Proofs.Pool.Accounting
import ServerRender.Proofs.Renderer.Freshness
import ServerRender.Proofs.Renderer.Transparency
import ServerRender.Proofs.Renderer.Undisturbed
import ServerRender.Renderer.Schedule
import ServerRender.Script.Bundle
import ServerRender.Proofs.Pool.Shutdown
import ServerRender.Proofs.Renderer.Handover
import ServerRender.Proofs.CodeCache.Workshop
import ServerRender.Proofs.Renderer.Generations
import ServerRender.Proofs.Pool.Waiting
import ServerRender.Proofs.Renderer.Replacement
import ServerRender.Proofs.Renderer.Confinement
import ServerRender.Proofs.Renderer.Reconfiguration
import ServerRender.Proofs.Script.StoredGraph
import ServerRender.Proofs.EngineThread.Isolation
import ServerRender.Proofs.EngineThread.Exchange
import ServerRender.Proofs.Renderer.Mode
import ServerRender.Proofs.CodeCache.Effects
import ServerRender.Proofs.Pool.Demand
import ServerRender.Proofs.Reloading
import ServerRender.Proofs.Renderer.Lending
import ServerRender.Proofs.CommandLine.Check
import ServerRender.Proofs.Template.Printing
import ServerRender.Proofs.Template.Literal
import ServerRender.Proofs.StackTrace
import ServerRender.Proofs.SourceWindow
import ServerRender.Proofs.Diagnosis
import ServerRender.Proofs.CommandLine.Listing
import ServerRender.Proofs.Renderer.Refusal
import ServerRender.Proofs.Script.FaultPosition
import ServerRender.Proofs.StackTrace.Slices
import ServerRender.Proofs.Options.Room
import ServerRender.Proofs.Pool.Settling
import ServerRender.Proofs.Renderer.Progress
import ServerRender.Proofs.Renderer.Repetition
import ServerRender.Proofs.CommandLine.Concurrency
