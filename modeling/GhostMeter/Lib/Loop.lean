import GhostMeter.Lib.Check
import Mathlib.Data.List.Forall2

/-! Loops over a list, with and without exceptions, and what holds of the elements that they
have been through. -/

universe u v

namespace GhostMeter.Lib

variable {ε : Type u} {α σ : Type v} {f : σ → α → Except ε σ} {s s' : σ}

/-- The loop rule: what every round preserves holds after a loop that does not raise, of the
elements it has been through. -/
theorem foldlM_invariant {P : List α → σ → Prop} {l : List α}
    (h : ∀ done a s s', P done s → f s a = .ok s' → P (done ++ [a]) s') (h0 : P [] s)
    (hl : l.foldlM f s = .ok s') : P l s' := by
  suffices hgen : ∀ l done s, P done s → l.foldlM f s = .ok s' → P (done ++ l) s' from
    hgen l [] s h0 hl
  intro l
  induction l with
  | nil =>
    intro done s hs hl
    cases hl
    simpa using hs
  | cons a l ih =>
    intro done s hs hl
    rw [List.foldlM_cons, bind_ok_iff] at hl
    obtain ⟨s₁, h₁, h₂⟩ := hl
    simpa using ih (done ++ [a]) s₁ (h done a s s₁ hs h₁) h₂

/-- A loop does not raise if no round does that starts from the invariant. -/
theorem foldlM_progress {P : List α → σ → Prop} {l : List α}
    (h : ∀ done a rest s, l = done ++ a :: rest → P done s →
      ∃ s', f s a = .ok s' ∧ P (done ++ [a]) s') (h0 : P [] s) :
    ∃ s', l.foldlM f s = .ok s' ∧ P l s' := by
  suffices hgen : ∀ rest done s, l = done ++ rest → P done s →
      ∃ s', rest.foldlM f s = .ok s' ∧ P l s' from hgen l [] s rfl h0
  intro rest
  induction rest with
  | nil =>
    intro done s hl hs
    exact ⟨s, rfl, by simpa [hl] using hs⟩
  | cons a rest ih =>
    intro done s hl hs
    obtain ⟨s₁, h₁, hP⟩ := h done a rest s hl hs
    obtain ⟨s', h₂, hP'⟩ := ih (done ++ [a]) s₁ (by simp [hl]) hP
    exact ⟨s', by rw [List.foldlM_cons, bind_ok_iff]; exact ⟨s₁, h₁, h₂⟩, hP'⟩

theorem foldl_invariant {g : σ → α → σ} {P : List α → σ → Prop} {l : List α}
    (h : ∀ done a rest s, l = done ++ a :: rest → P done s → P (done ++ [a]) (g s a))
    (h0 : P [] s) : P l (l.foldl g s) := by
  suffices hgen : ∀ rest done s, l = done ++ rest → P done s → P l (rest.foldl g s) from
    hgen l [] s rfl h0
  intro rest
  induction rest with
  | nil =>
    intro done s hl hs
    simpa [hl] using hs
  | cons a rest ih =>
    intro done s hl hs
    exact ih (done ++ [a]) (g s a) (by simp [hl]) (h done a rest s hl hs)

section Keyed

variable {β κ : Type*} {g : σ → α → σ} (key : α → κ) (view : σ → κ → β) {v : α → β} {J : σ → Prop}
  {l : List α}

/-- A loop whose rounds each touch the view of their own key only leaves the other keys alone. -/
theorem foldl_keyed_other (hother : ∀ s, ∀ a ∈ l, ∀ k ≠ key a, view (g s a) k = view s k) {k : κ}
    (hk : k ∉ l.map key) : view (l.foldl g s) k = view s k := by
  induction l generalizing s with
  | nil => rfl
  | cons a l ih =>
    rw [List.map_cons, List.mem_cons, not_or] at hk
    rw [List.foldl_cons, ih (fun s b hb => hother s b (List.mem_cons_of_mem _ hb)) hk.2,
      hother s a List.mem_cons_self k hk.1]

theorem views_of_round {a : α} (hother : ∀ k ≠ key a, view (g s a) k = view s k)
    (hn : key a ∉ l.map key) (hv : ∀ b ∈ a :: l, view s (key b) = v b) :
    ∀ b ∈ l, view (g s a) (key b) = v b := by
  intro b hb
  have hne : key b ≠ key a := by
    intro heq
    exact hn (heq ▸ List.mem_map_of_mem hb)
  rw [hother _ hne]
  exact hv b (List.mem_cons_of_mem _ hb)

/-- The rule for such loops.  Every round finds what there was under its key before the loop, and
what it makes of that stays. -/
theorem foldl_keyed {R : α → β → Prop}
    (hother : ∀ s, ∀ a ∈ l, ∀ k ≠ key a, view (g s a) k = view s k)
    (hround : ∀ s, J s → ∀ a ∈ l, view s (key a) = v a → J (g s a) ∧ R a (view (g s a) (key a)))
    (hn : (l.map key).Nodup) (hs : J s) (hv : ∀ a ∈ l, view s (key a) = v a) :
    J (l.foldl g s) ∧ ∀ a ∈ l, R a (view (l.foldl g s) (key a)) := by
  induction l generalizing s with
  | nil => exact ⟨hs, by simp⟩
  | cons a l ih =>
    rw [List.map_cons, List.nodup_cons] at hn
    have hother' : ∀ s, ∀ b ∈ l, ∀ k ≠ key b, view (g s b) k = view s k := fun s b hb =>
      hother s b (List.mem_cons_of_mem _ hb)
    obtain ⟨hJ, hR⟩ := hround s hs a List.mem_cons_self (hv a List.mem_cons_self)
    have hv' := views_of_round key view (hother s a List.mem_cons_self) hn.1 hv
    obtain ⟨hJl, hRl⟩ := ih hother' (fun s hs b hb => hround s hs b (List.mem_cons_of_mem _ hb))
      hn.2 hJ hv'
    refine ⟨hJl, ?_⟩
    rw [List.forall_mem_cons, List.foldl_cons, foldl_keyed_other key view hother' hn.1]
    exact ⟨hR, hRl⟩

/-- A counter of the rounds that end in a certain way. -/
theorem foldl_keyed_count {n : σ → ℕ} {p : α → β → Bool}
    (hother : ∀ s, ∀ a ∈ l, ∀ k ≠ key a, view (g s a) k = view s k)
    (hround : ∀ s, J s → ∀ a ∈ l, view s (key a) = v a →
      J (g s a) ∧ n (g s a) = n s + (p a (view (g s a) (key a))).toNat)
    (hn : (l.map key).Nodup) (hs : J s) (hv : ∀ a ∈ l, view s (key a) = v a) :
    n (l.foldl g s) = n s + l.countP fun a => p a (view (l.foldl g s) (key a)) := by
  induction l generalizing s with
  | nil => simp
  | cons a l ih =>
    rw [List.map_cons, List.nodup_cons] at hn
    have hother' : ∀ s, ∀ b ∈ l, ∀ k ≠ key b, view (g s b) k = view s k := fun s b hb =>
      hother s b (List.mem_cons_of_mem _ hb)
    obtain ⟨hJ, hcount⟩ := hround s hs a List.mem_cons_self (hv a List.mem_cons_self)
    have hv' := views_of_round key view (hother s a List.mem_cons_self) hn.1 hv
    have htail := ih hother' (fun s hs b hb => hround s hs b (List.mem_cons_of_mem _ hb))
      hn.2 hJ hv'
    rw [List.foldl_cons, htail, hcount, List.countP_cons, foldl_keyed_other key view hother' hn.1]
    cases p a (view (g s a) (key a)) with
    | false => simp
    | true => simp [Nat.add_assoc, Nat.add_comm 1]

end Keyed

theorem mapM_ok_iff {β : Type v} {f : α → Except ε β} {l : List α} {l' : List β} :
    l.mapM f = .ok l' ↔ List.Forall₂ (fun a b => f a = .ok b) l l' := by
  induction l generalizing l' with
  | nil =>
    rw [List.mapM_nil, List.forall₂_nil_left_iff]
    exact ⟨fun h => (Except.ok.inj h).symm, fun h => h ▸ rfl⟩
  | cons a l ih =>
    simp only [List.mapM_cons, bind_ok_iff, List.forall₂_cons_left_iff, ih]
    constructor
    · rintro ⟨b, hb, bs, hbs, hl⟩
      exact ⟨b, bs, hb, hbs, (Except.ok.inj hl).symm⟩
    · rintro ⟨b, bs, hb, hbs, rfl⟩
      exact ⟨b, hb, bs, hbs, rfl⟩

theorem mapM_isOk_iff {β : Type v} {f : α → Except ε β} {l : List α} :
    (∃ l', l.mapM f = .ok l') ↔ ∀ a ∈ l, ∃ b, f a = .ok b := by
  simp only [mapM_ok_iff]
  induction l with
  | nil => simp
  | cons a l ih =>
    simp only [List.forall₂_cons_left_iff, List.forall_mem_cons, ← ih]
    constructor
    · rintro ⟨_, b, bs, hb, hbs, rfl⟩
      exact ⟨⟨b, hb⟩, bs, hbs⟩
    · rintro ⟨⟨b, hb⟩, bs, hbs⟩
      exact ⟨_, b, bs, hb, hbs, rfl⟩

end GhostMeter.Lib
