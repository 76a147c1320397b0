import CecBus.Component.Driver
import CecBus.Component.Lifecycle

/-! Calls that close something, run as far as they can go before they have to wait for a worker. -/

namespace CecBus

/-- The number of stages that a stage can grow into, itself included. -/
def Stage.cost : Stage → Nat
  | .join _ | .vacate _ | .forgetSetup | .clearInitialized => 1
  | .shutDown _ => 2
  | .retire .. => 4
  | .findSession _ => 6
  | .checkInitialized => 8

/-- The number of stages that some stages can grow into. -/
def Stage.totalCost (stages : List Stage) : Nat := stages.foldr (fun stage rest => stage.cost + rest) 0

namespace Component

variable {ρ : Type}

/-- Performs stages until one has to wait or none is left. -/
def advance (caller : Option Nat) : Nat → List Stage → Component ρ →
    Attempt CallError (List Stage × Component ρ)
  | 0, stages, c => pure (stages, c)
  | _ + 1, [], c => pure ([], c)
  | fuel + 1, stage :: rest, c =>
    if c.blocks stage then pure (stage :: rest, c)
    else do
      let (more, c) ← c.perform caller stage
      advance caller fuel (more ++ rest) c

/-- Goes on with a call as far as possible; with the component come the stages that are left. -/
def proceed (c : Component ρ) (caller : Option Nat) (stages : List Stage) :
    Attempt CallError (List Stage × Component ρ) :=
  advance caller (Stage.totalCost stages) stages c

end Component

end CecBus
