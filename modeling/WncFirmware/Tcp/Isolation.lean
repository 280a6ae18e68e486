import WncFirmware.Tcp.Server

/-!
# Isolation of the clients

All clients are served through one `cmd_buf` and by one thread.  A client gets
the commands of its own stream as long as its bytes, and those of the others,
never meet a packet that someone else left incomplete, and nobody's oversized
packet keeps the thread in `handle_recv_pack`.
-/

namespace WncFirmware.Tcp

open WncFirmware.Foundation

/-! ## What a client sees -/

def ServerEvent.changes (fd : Nat) : ServerEvent → Bool
  | .closed client | .connected client => client == fd
  | _ => false

/--
Every piece arrives between packets, or continues a packet of its own
connection, and does not overrun an oversized packet.  `owner` is the client
whose piece was handled last, unless its connection has ended since.
-/
def Undisturbed : Option Nat → List ServerEvent → Prop
  | _, [] => True
  | owner, .handled fd piece before _ _ :: events =>
      (before.newPack = true ∨ owner = some fd) ∧ ¬ Overruns before piece ∧
        Undisturbed (some fd) events
  | owner, .closed fd :: events | owner, .connected fd :: events =>
      Undisturbed (if owner = some fd then none else owner) events
  | owner, .refused _ :: events | owner, .keepaliveFailed _ :: events =>
      Undisturbed owner events

instance decidableUndisturbed :
    ∀ owner events, Decidable (Undisturbed owner events)
  | _, [] => isTrue trivial
  | owner, .handled fd piece before _ _ :: events =>
      have := decidableUndisturbed (some fd) events
      inferInstanceAs (Decidable ((before.newPack = true ∨ owner = some fd) ∧
        ¬ Overruns before piece ∧ Undisturbed (some fd) events))
  | owner, .closed fd :: events | owner, .connected fd :: events =>
      decidableUndisturbed (if owner = some fd then none else owner) events
  | owner, .refused _ :: events | owner, .keepaliveFailed _ :: events =>
      decidableUndisturbed owner events

/-! ## States that behave alike -/

/-- Between packets the length and the buffer of the last packet do not matter. -/
def SameProgress (first second : RecvState) : Prop :=
  first = second ∨ (first.newPack = true ∧ second.newPack = true)

theorem SameProgress.newPack {first second : RecvState}
    (h : SameProgress first second) (hnew : first.newPack = true) :
    second.newPack = true := by
  rcases h with rfl | ⟨-, hsecond⟩
  · exact hnew
  · exact hsecond

def Follows (fd : Nat) (owner : Option Nat) (shared alone : RecvState) : Prop :=
  (owner = some fd ∧ SameProgress shared alone) ∨
    (owner ≠ some fd ∧ alone.newPack = true)

theorem Follows.ended {fd client : Nat} {owner : Option Nat}
    {shared alone : RecvState} (h : Follows fd owner shared alone)
    (hclient : client ≠ fd) :
    Follows fd (if owner = some client then none else owner) shared alone := by
  by_cases howner : owner = some client
  · simp only [howner, ↓reduceIte]
    rcases h with ⟨hmine, -⟩ | ⟨-, halone⟩
    · rw [howner] at hmine
      exact absurd (Option.some.inj hmine) hclient
    · exact .inr ⟨by simp, halone⟩
  · simpa [howner] using h

end WncFirmware.Tcp
