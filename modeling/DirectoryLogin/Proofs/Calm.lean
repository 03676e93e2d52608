import DirectoryLogin.Proofs.Faults
import DirectoryLogin.Proofs.Session.Completing
/-!
# Faults that are No Interrupts

Without interrupts among the faults that are due, whatever goes wrong can be caught: requests are answered, refused, or
fail in an ordinary way, and so do the programs that send them.

- `World.Calm`: no fault that is due is an interrupt.
- `Exchange.Orderly.completes`: orderly programs complete in a calm world.
-/

namespace DirectoryLogin

open Session (Completes)

/-! ## §1 Faults -/

/-- What the fault causes can be caught. -/
def Fault.IsOrdinary (f : Fault) : Prop :=
  ∀ e, f.failure = some e → e.isOrdinary = true

namespace World

/-- No fault that is due is an interrupt. -/
def Calm (w : World) : Prop :=
  ∀ f ∈ w.faults, f.IsOrdinary

theorem Calm.of_quiet {w : World} (hquiet : w.faults = []) : w.Calm := by
  intro f hf
  rw [hquiet] at hf
  cases hf

/-! ## §2 Requests -/

theorem openWire_completes (n : Nat) (request : OpenRequest) : Completes Calm (openWire n request) :=
  openWire_confines (fun _ => Failure.ordinary_of_isRaised) n request

theorem unbindWire_completes (n : Nat) : Completes Calm (unbindWire n) :=
  unbindWire_confines n

theorem say_completes (level : Level) (source : Source) (text : String) : Completes Calm (say level source text) :=
  say_confines level source text

end World

/-! ## §3 Over a connection -/

/-- No fault that is due over the connection is an interrupt. -/
def Channel.Calm (ch : Channel) : Prop :=
  ch.world.Calm

namespace Exchange

open Channel

variable {α : Type} {s : Settings} {P : α → Prop} {x : Exchange α}

theorem bind_completes : Completes Calm bind :=
  bind_confines fun _ => Failure.ordinary_of_isRaised

theorem startTls_completes : Completes Calm startTls :=
  startTls_confines fun _ => Failure.ordinary_of_isRaised

theorem close_completes : Completes Calm close :=
  close_confines fun _ => Failure.ordinary_of_isRaised

/-- **Orderly programs** complete in a calm world. -/
theorem Orderly.completes (hx : Orderly s P x) : Completes Calm x :=
  hx.confines fun _ => Failure.ordinary_of_isRaised

end Exchange

end DirectoryLogin
