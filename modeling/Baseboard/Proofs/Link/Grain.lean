import Baseboard.Proofs.Link.Events
import Baseboard.Proofs.Link.Waiting

/-! The grain of time. A socket draws out a wait of less than a millisecond, so that a try may take
longer than it is given. When whatever happens does so after whole milliseconds there is no such
wait, and a socket waits like any other carrier. -/
namespace Baseboard

namespace Link

variable {time grain : Nat}

/-- The last of the slices that some time is cut into. -/
def lastSlice (time : Nat) : Nat := (time - 1) % pollSlice.length + 1

theorem lastSlice_le (hpos : 0 < time) : lastSlice time ≤ time := by
  have hle := Nat.mod_le (time - 1) pollSlice.length
  unfold lastSlice
  omega

theorem lastSlice_of_le (hpos : 0 < time) (h : time ≤ pollSlice.length) :
    lastSlice time = time := by
  rw [lastSlice, Nat.mod_eq_of_lt (by omega)]
  exact Nat.sub_add_cancel hpos

theorem lastSlice_add (hpos : 0 < time) :
    lastSlice (pollSlice.length + time) = lastSlice time := by
  rw [lastSlice, Nat.add_sub_assoc hpos, Nat.add_mod_left, lastSlice]

theorem dvd_pollSlice : millisecond ∣ pollSlice.length := ⟨100, Nat.mul_comm ..⟩

/-- Slices that are multiples of a grain leave a multiple of it. -/
theorem dvd_lastSlice (hpos : 0 < time) (hslice : grain ∣ pollSlice.length) (h : grain ∣ time) :
    grain ∣ lastSlice time := by
  have hsplit := Nat.div_add_mod (time - 1) pollSlice.length
  have hlast : lastSlice time = time - pollSlice.length * ((time - 1) / pollSlice.length) := by
    unfold lastSlice
    omega
  rw [hlast]
  exact Nat.dvd_sub h (Nat.dvd_trans hslice (Nat.dvd_mul_right ..))

end Link

namespace Carrier

open Link (pollSlice lastSlice lastSlice_le)

variable {w longer time : Nat}

/-- How much longer than asked for a wait can be. -/
def overrun : Carrier → Nat
  | plain => 0
  | socket => millisecond - 1

theorem wait_le (c : Carrier) (hpos : 0 < w) : c.wait w ≤ w + c.overrun := by
  cases c with
  | plain => exact Nat.le_refl w
  | socket =>
    change max w millisecond ≤ w + (millisecond - 1)
    omega

theorem wait_mono (c : Carrier) (h : w ≤ longer) : c.wait w ≤ c.wait longer := by
  cases c with
  | plain => exact h
  | socket =>
    change max w millisecond ≤ max longer millisecond
    omega

/-- Whole milliseconds are not drawn out. -/
theorem wait_of_dvd (c : Carrier) (hpos : 0 < w) (h : millisecond ∣ w) : c.wait w = w := by
  cases c with
  | plain => rfl
  | socket => exact Nat.max_eq_left (Nat.le_of_dvd hpos h)

theorem wait_pollSlice (c : Carrier) : c.wait pollSlice.length = pollSlice.length :=
  c.wait_of_dvd pollSlice.pos Link.dvd_pollSlice

/-- How long it takes to wait for some time in slices, of which a carrier may draw out the last. -/
def inSlices (c : Carrier) (time : Nat) : Nat := time - lastSlice time + c.wait (lastSlice time)

theorem le_inSlices (c : Carrier) (hpos : 0 < time) : time ≤ c.inSlices time := by
  have hlast := lastSlice_le hpos
  have hwait := c.le_wait (lastSlice time)
  unfold inSlices
  omega

theorem inSlices_of_le (c : Carrier) (hpos : 0 < time) (h : time ≤ pollSlice.length) :
    c.inSlices time = c.wait time := by
  rw [inSlices, Link.lastSlice_of_le hpos h, Nat.sub_self, Nat.zero_add]

/-- A slice that others come after takes its own time. -/
theorem inSlices_add (c : Carrier) (hpos : 0 < time) :
    c.inSlices (pollSlice.length + time) = pollSlice.length + c.inSlices time := by
  have hlast := lastSlice_le hpos
  rw [inSlices, inSlices, Link.lastSlice_add hpos]
  omega

/-- Slices of which none is drawn out take just the time that is cut into them. -/
theorem inSlices_eq_self (c : Carrier) (hpos : 0 < time)
    (h : c.wait (lastSlice time) = lastSlice time) : c.inSlices time = time := by
  rw [inSlices, h]
  exact Nat.sub_add_cancel (lastSlice_le hpos)

/-- A single wait for as long as slices take is not drawn out. -/
theorem wait_inSlices (c : Carrier) (time : Nat) : c.wait (c.inSlices time) = c.inSlices time := by
  cases c with
  | plain => rfl
  | socket =>
    have hlast : millisecond ≤ socket.wait (lastSlice time) := Nat.le_max_right ..
    exact Nat.max_eq_left (Nat.le_add_left_of_le hlast)

end Carrier

namespace Network

variable {n : Network} {grain wait deadline : Nat}

/-- Whatever is to happen does so after a multiple of `grain`. -/
structure Grained (grain : Nat) (n : Network) : Prop where
  pending : ∀ e ∈ n.pending, grain ∣ e.delay
  script : ∀ delivery ∈ n.script, ∀ e ∈ delivery.events, grain ∣ e.delay

theorem grained_one (n : Network) : n.Grained 1 :=
  ⟨fun _ _ => Nat.one_dvd _, fun _ _ _ _ => Nat.one_dvd _⟩

theorem Grained.send (h : n.Grained grain) (frame : Bytes) : (n.send frame).2.Grained grain := by
  unfold Network.send
  split
  · exact ⟨h.pending, h.script⟩
  · rename_i events rest hscript
    have hall := h.script
    rw [hscript, List.forall_mem_cons] at hall
    exact ⟨List.forall_mem_append.mpr ⟨h.pending, hall.1⟩, hall.2⟩
  · rename_i cause rest hscript
    have hall := h.script
    rw [hscript, List.forall_mem_cons] at hall
    exact ⟨h.pending, hall.2⟩

/-- A receive that waits for a multiple of the grain leaves what is to come and what is left of the
time as even as they were. -/
theorem Grained.receive (h : n.Grained grain) (hwait : grain ∣ wait)
    (hleft : grain ∣ deadline - n.now) :
    (n.receive wait).2.Grained grain ∧ grain ∣ deadline - (n.receive wait).2.now := by
  have hlater {time : Nat} (htime : grain ∣ time) : grain ∣ deadline - (n.now + time) := by
    rw [← Nat.sub_sub]
    exact Nat.dvd_sub hleft htime
  rw [receive_eq]
  cases hpending : n.pending with
  | nil =>
    rw [await_of_nil hpending]
    exact ⟨⟨h.pending, h.script⟩, hlater hwait⟩
  | cons e rest =>
    have hall := h.pending
    rw [hpending, List.forall_mem_cons] at hall
    obtain ⟨hdelay, hrest⟩ := hall
    rcases Nat.lt_or_ge wait e.delay with hearly | hdue
    · rw [await_of_early hpending hearly]
      have hnearer : grain ∣ e.delay - wait := Nat.dvd_sub hdelay hwait
      exact ⟨⟨List.forall_mem_cons.mpr ⟨hnearer, hrest⟩, h.script⟩, hlater hwait⟩
    · rw [await_of_due hpending hdue, happened_eq]
      exact ⟨⟨hrest, h.script⟩, hlater hdelay⟩

end Network

namespace Link

variable {timeout : Nat} {l : Link}

/-- No wait of a try is drawn out: the carrier waits just as it is asked to, or the time of a try is
whole milliseconds, and so are the times after which something happens. -/
def Punctual (timeout : Nat) (l : Link) : Prop :=
  l.carrier = .plain ∨ (millisecond ∣ timeout ∧ l.network.Grained millisecond)

/-- All the times of a try then have a grain that the carrier leaves as it is. -/
theorem Punctual.exists_grain (h : l.Punctual timeout) :
    ∃ grain, grain ∣ timeout ∧ grain ∣ pollSlice.length ∧ l.network.Grained grain ∧
      ∀ wait, 0 < wait → grain ∣ wait → l.carrier.wait wait = wait := by
  rcases h with hplain | ⟨htimeout, hgrained⟩
  · exact ⟨1, Nat.one_dvd _, Nat.one_dvd _, l.network.grained_one, fun _ _ _ => by rw [hplain]; rfl⟩
  · exact ⟨millisecond, htimeout, dvd_pollSlice, hgrained, fun _ => l.carrier.wait_of_dvd⟩

end Link
end Baseboard
