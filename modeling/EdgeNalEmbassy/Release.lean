import EdgeNalEmbassy.Contract
import EdgeNalEmbassy.Capacity

/-! # Dropping every socket gives every slot back

`TcpSocket`, `UdpSocket` and `RawSocket` free their slot in `Drop`, and a future that is
dropped while it waits drops the wrapper it made. So no slot leaks: a world with no live
wrapper has its pools as `Pool::new()` made them, and from any world the holders can drop
what they hold, by release steps alone (`Drains`), and reach such a world. Releasing is
always possible: a pending call can be abandoned, and a split wrapper loses its halves one
at a time before the caller drops it.
-/

namespace EdgeNalEmbassy

/-- A step that only gives back: a dropped future, a dropped split half, a dropped socket. -/
def Event.Releases : Event → Prop
  | .abandon _ | .dropHalf _ | .drop _ => True
  | _ => False

/-- The worlds reached from `w₀` by releasing steps alone. -/
inductive Drains (f : Features) (w₀ : World) : World → Prop
  | refl : Drains f w₀ w₀
  | step {w w' : World} {e : Event} {reply : Reply} :
      Drains f w₀ w → e.Releases → w.step f e = some (.ok (w', reply)) → Drains f w₀ w'

section Runs

variable {f : Features} {w₀ w w' : World}

theorem Drains.trans {w₁ : World} (h : Drains f w₀ w₁) (h' : Drains f w₁ w') : Drains f w₀ w' := by
  induction h' with
  | refl => exact h
  | step _ he hs ih => exact .step ih he hs

theorem Drains.reachable {w₁ : World} (hw : Reachable f w₀ w₁) (h : Drains f w₁ w') :
    Reachable f w₀ w' := by
  induction h with
  | refl => exact hw
  | step _ _ hs ih => exact .step ih hs

end Runs

attribute [ext] Pool

section Reached

variable {f : Features} {cap data size : Nat → Nat} {h : ∀ i, 0 < data i} {w : World}

theorem Reachable.layout (hs : ∀ i, 0 < size i) (hw : Reachable f (World.init cap data size h) w)
    (i : Nat) : (w.pools i).data = data i ∧ (w.pools i).size = size i := by
  induction hw with
  | refl => exact ⟨rfl, rfl⟩
  | step hw he ih =>
    rcases ((hw.owned hs).step_ok he).2.pools_eq with e | ⟨j, n, b, e⟩
    · rwa [e]
    · rwa [e, World.setSlot_data, World.setSlot_size]

theorem Reachable.fresh_of_empty (hs : ∀ i, 0 < size i)
    (hw : Reachable f (World.init cap data size h) w) (he : ∀ id, w.sockets id = none) :
    w.pools = (World.init cap data size h).pools := by
  funext i
  have hfree : ∀ b ∈ (w.pools i).used, b = false := by
    rintro (_ | _) hb
    · rfl
    · obtain ⟨n, hn⟩ := List.mem_iff_getElem?.mp hb
      obtain ⟨id, s, hs', -⟩ := (hw.owned hs).used_token i n hn
      simp [he id] at hs'
  obtain ⟨hd, hz⟩ := hw.layout hs i
  exact Pool.ext (List.eq_replicate_iff.mpr ⟨hw.length hs i, hfree⟩) hd hz

end Reached

section Release

variable {f : Features} {w : World} {id : Nat} {s : Socket}

theorem Owned.releaseStep (ho : Owned w) (hs : w.sockets id = some s) (e : Event)
    (hr : e.Releases) (he : w.step f e = some (w.fail id .unit)) :
    ∃ w', Drains f w w' ∧ Owned w' ∧ w'.next = w.next ∧
      w'.sockets = Function.update w.sockets id none := by
  obtain ⟨n, -, -, hd, ho'⟩ := ho.dropSocket hs
  exact ⟨_, .step .refl hr (by rw [he, World.fail, hd]; rfl), ho', rfl, rfl⟩

theorem Owned.releases (ho : Owned w) (hs : w.sockets id = some s) :
    ∃ w', Drains f w w' ∧ Owned w' ∧ w'.next = w.next ∧
      w'.sockets = Function.update w.sockets id none := by
  obtain ⟨k, i, t, holder⟩ := s
  cases holder with
  | connecting => exact ho.releaseStep hs (.abandon id) trivial (by simp [World.step, hs])
  | accepting => exact ho.releaseStep hs (.abandon id) trivial (by simp [World.step, hs])
  | caller n =>
    induction n generalizing w with
    | zero => exact ho.releaseStep hs (.drop id) trivial (by simp [World.step, hs])
    | succ n ih =>
      have hs' : (w.hold id (.caller n)).sockets id = some ⟨k, i, t, .caller n⟩ := by
        simp [World.hold, hs]
      have half : Drains f w (w.hold id (.caller n)) :=
        @Drains.step f w w _ (.dropHalf id) .unit .refl trivial (by simp [World.step, hs])
      obtain ⟨w', hd, ho', hn, hw'⟩ := ih (ho.hold hs _).2 hs'
      refine ⟨w', half.trans hd, ho', ?_, ?_⟩
      · rw [hn]; simp only [World.hold, hs]
      · rw [hw']; simp only [World.hold, hs, Function.update_idem]

theorem Owned.drainsBelow (ho : Owned w) (m : Nat) :
    ∃ w', Drains f w w' ∧ Owned w' ∧ w'.next = w.next ∧ ∀ id < m, w'.sockets id = none := by
  induction m with
  | zero => exact ⟨w, .refl, ho, rfl, fun _ h => absurd h (Nat.not_lt_zero _)⟩
  | succ m ih =>
    obtain ⟨w₁, hd, ho₁, hn, hw₁⟩ := ih
    have below : ∀ {w₂ : World}, w₂.sockets = Function.update w₁.sockets m none →
        ∀ id < m + 1, w₂.sockets id = none := by
      intro w₂ e id hid
      rcases Nat.lt_succ_iff_lt_or_eq.mp hid with h | rfl
      · rw [e, Function.update_noteq h.ne, hw₁ id h]
      · rw [e, Function.update_same]
    cases hm : w₁.sockets m with
    | none => exact ⟨w₁, hd, ho₁, hn, below (by rw [← hm, Function.update_eq_self])⟩
    | some s =>
      obtain ⟨w', hd', ho', hn', hw'⟩ := ho₁.releases hm
      exact ⟨w', hd.trans hd', ho', hn'.trans hn, below hw'⟩

theorem Owned.drains (ho : Owned w) :
    ∃ w', Drains f w w' ∧ Owned w' ∧ ∀ id, w'.sockets id = none := by
  obtain ⟨w', hd, ho', hn, hw'⟩ := ho.drainsBelow w.next
  refine ⟨w', hd, ho', fun id => ?_⟩
  rcases Nat.lt_or_ge id w.next with h | h
  exacts [hw' id h, ho'.fresh id (hn ▸ h)]

end Release

/-- No slot leaks: along any interleaving from fresh pools of non-zero element size, a world
with no live wrapper has every pool as `Pool::new()` made it, and from every reachable world
dropping the live wrappers, and nothing else, reaches such a world. -/
theorem release_restores_fresh_pools {f : Features} {cap data size : Nat → Nat}
    {h : ∀ i, 0 < data i} {w : World} (hs : ∀ i, 0 < size i)
    (hw : Reachable f (World.init cap data size h) w) :
    ((∀ id, w.sockets id = none) → w.pools = (World.init cap data size h).pools) ∧
      ∃ w', Drains f w w' ∧ (∀ id, w'.sockets id = none) ∧
        w'.pools = (World.init cap data size h).pools := by
  refine ⟨hw.fresh_of_empty hs, ?_⟩
  obtain ⟨w', hd, -, he⟩ := (hw.owned hs).drains (f := f)
  exact ⟨w', hd, he, (hd.reachable hw).fresh_of_empty hs he⟩

theorem bindThenConnect_drains :
    ∃ w, Reachable ⟨true, true⟩ twoSlotPools w ∧ (w.pools 0).used = [true, true] ∧
      ∃ w', Drains ⟨true, true⟩ w w' ∧ (∀ id, w'.sockets id = none) ∧
        w'.pools = twoSlotPools.pools :=
  have hw := @Reachable.step ⟨true, true⟩ twoSlotPools _ _ (.connect 0 (.v4 2 80) .pending) _
    (@Reachable.step _ _ _ _ (.connect 0 (.v4 1 80) .pending) _
      (@Reachable.step _ _ _ _ (.udpBind 1 (.v4 0 0) (.ok ())) _ .refl rfl) rfl) rfl
  ⟨_, hw, rfl, (release_restores_fresh_pools (fun _ => Nat.succ_pos 7) hw).2⟩

end EdgeNalEmbassy
