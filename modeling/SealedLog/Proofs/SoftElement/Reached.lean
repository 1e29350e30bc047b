import SealedLog.Proofs.Lasting
import SealedLog.Proofs.SoftElement.Run

/-!
# Boots as runs

All that a boot does to an element is to submit commands and to let the worker get on. So a boot is
a part of the run of its element, however it ends.

- `Reached`: a gateway whose element got where it is by a run.
- `bootOver_reached`: a boot leaves it so.
-/

namespace SealedLog.SoftElement

open Gateway

variable {outside : Files → Files → Prop} {first : Situation} {gateway : Gateway SoftElement}
  {world : World}

/-- The element behind the gateway got where it is by a run, and every command went through the
gateway. -/
def Reached (outside : Files → Files → Prop) (first : Situation) (gateway : Gateway SoftElement)
    (world : World) : Prop :=
  Run outside first ⟨gateway.element, world.files, gateway.completions.length⟩

/-- Commands and waits are steps of a run. -/
theorem lasting_run (outside : Files → Files → Prop) (first : Situation) :
    Element.Lasting fun element issued files => Run outside first ⟨element, files, issued⟩ where
  submit command h := .tail h (.submit command)
  await limit h := .tail h (.work limit)

/-- A boot is a part of the run of its element, also one that fails half way. -/
theorem bootOver_reached {μ : Type} [Medium μ] (h : Reached outside first gateway world)
    (config : Config) (medium : μ) :
    (Journal.bootOver config medium).Ensures gateway world (fun _ => True)
      (fun _ => Reached outside first) fun _ => Reached outside first :=
  (Journal.bootOver_lasting ((lasting_run outside first).under _) h config medium).mono
    (fun _ _ _ hfailed => hfailed) fun _ _ _ hready => hready.1

end SealedLog.SoftElement
