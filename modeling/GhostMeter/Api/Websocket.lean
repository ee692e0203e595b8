import GhostMeter.Lib.Run
import GhostMeter.Lib.SetIterator

/-! The monitor's broadcast: one pass over its clients, while they connect and disconnect. -/

namespace GhostMeter.Api

open GhostMeter.Lib

/-- Where the pass is. -/
inductive BroadcastPlace (α : Type)
  | ready
  | sending (ws : α)
  | ended

/-- A pass over the clients. -/
structure Broadcast (α : Type) where
  clients : IteratedSet α
  place : BroadcastPlace α := .ready
  /-- The size of the set when the iteration began. -/
  used : ℕ := 0
  disconnected : List α := []
  /-- The clients that the message has been sent to, once for each time. -/
  delivered : List α := []
  /-- The clients that have been there since the iteration began. -/
  stayed : List α := []

/-- What others do at an await, and how the loop goes on. -/
inductive BroadcastEvent (α : Type)
  /-- With the set as it is then. -/
  | connect (ws : α) (clients : IteratedSet α)
  | disconnect (ws : α)
  | begins
  /-- The send returns, or it raises. -/
  | resumes (ok : Bool)

namespace Broadcast

variable {α : Type} [DecidableEq α]

/-- The loop up to its next await: Python raises when the set has another size, and the exception
is logged. -/
def next (st : Broadcast α) : Broadcast α :=
  if st.clients.size ≠ st.used then { st with place := .ended }
  else
    match st.clients.next with
    | some (ws, clients) => { st with clients, place := .sending ws }
    | none => { st with
        clients := st.disconnected.foldl (·.discard ·) st.clients
        stayed := st.stayed.filter (· ∉ st.disconnected)
        place := .ended }

def step (st : Broadcast α) : BroadcastEvent α → Option (Broadcast α)
  | .connect ws clients =>
    match st.place with
    | .ended => none
    | _ => if st.clients.Adds clients ws then some { st with clients } else none
  | .disconnect ws =>
    match st.place with
    | .ended => none
    | _ => some { st with
        clients := st.clients.discard ws, stayed := st.stayed.filter (· ≠ ws) }
  | .begins =>
    match st.place with
    | .ready => some { st with
        clients := st.clients.restart
        used := st.clients.size
        stayed := st.clients.entries }.next
    | _ => none
  | .resumes ok =>
    match st.place with
    | .sending ws => some (if ok then { st with delivered := st.delivered ++ [ws] }
        else { st with disconnected := st.disconnected ++ [ws] }).next
    | _ => none

/-- When the pass ends, every client that stayed has been sent the message once, and those whose
send failed are gone. -/
def EndsWell (st : Broadcast α) : Prop :=
  match st.place with
  | .ended => (∀ ws ∈ st.stayed, st.delivered.count ws = 1) ∧
    ∀ ws ∈ st.disconnected, ws ∉ st.clients.entries
  | _ => True

/-- The set has its first size whenever the loop goes on, and no client that connects meanwhile
moves another one to the other side of the iterator. -/
def Careful (st : Broadcast α) : BroadcastEvent α → Prop
  | .connect _ clients =>
    match st.place with
    | .sending _ => st.clients.Keeps clients
    | _ => True
  | .resumes _ => st.clients.size = st.used
  | _ => True

variable {st st' : Broadcast α} {ws : α}

/-- Of the clients that stayed, those that the iterator has passed have been tried once. -/
def Tried (st : Broadcast α) (attempts : List α) : Prop :=
  ∀ ws ∈ st.stayed, (ws ∈ st.clients.passed ∧ attempts.count ws = 1) ∨
    (ws ∈ st.clients.coming ∧ attempts.count ws = 0)

/-- The invariant of a careful pass. -/
def Inv (st : Broadcast α) : Prop :=
  match st.place with
  | .ready => st.delivered = [] ∧ st.disconnected = []
  | .sending ws => st.Tried (ws :: (st.delivered ++ st.disconnected))
  | .ended => st.EndsWell

/-- The loop goes on to its next client, or to its end. -/
theorem inv_next (h : st.Tried (st.delivered ++ st.disconnected))
    (hsize : st.clients.size = st.used) : st.next.Inv := by
  rw [next, if_neg (not_not.2 hsize)]
  split
  next ws clients hnext =>
    obtain ⟨hcoming, hpassed⟩ := IteratedSet.next_eq_some hnext
    obtain ⟨hold, hnew⟩ := IteratedSet.notMem_coming_of_next hnext
    intro c hc
    change (c ∈ clients.passed ∧ _) ∨ (c ∈ clients.coming ∧ _)
    rw [hpassed, List.mem_append, List.mem_singleton]
    rcases h c hc with ⟨hmem, hcount⟩ | ⟨hmem, hcount⟩
    · have hne : ws ≠ c := fun heq => hold (heq ▸ hmem)
      exact Or.inl ⟨Or.inl hmem, (List.count_cons_of_ne hne).trans hcount⟩
    · rw [hcoming, List.mem_cons] at hmem
      rcases hmem with rfl | hmem
      · exact Or.inl ⟨Or.inr rfl, List.count_cons_self.trans (congrArg Nat.succ hcount)⟩
      · have hne : ws ≠ c := fun heq => hnew (heq ▸ hmem)
        exact Or.inr ⟨hmem, (List.count_cons_of_ne hne).trans hcount⟩
  next hnone =>
    have hend := IteratedSet.next_eq_none_iff.1 hnone
    refine ⟨fun c hc => ?_, fun c hc => ?_⟩
    · obtain ⟨hc, hfine⟩ := List.mem_filter.1 hc
      rw [decide_eq_true_eq] at hfine
      rcases h c hc with ⟨-, hcount⟩ | ⟨hmem, -⟩
      · rwa [List.count_append, List.count_eq_zero_of_not_mem hfine, Nat.add_zero] at hcount
      · rw [hend] at hmem
        cases hmem
    · exact fun hmem => (IteratedSet.mem_entries_foldl_discard.1 hmem).2 hc

theorem tried_discard {attempts : List α} (h : st.Tried attempts) (ws : α) :
    Tried { st with
      clients := st.clients.discard ws, stayed := st.stayed.filter (· ≠ ws) } attempts := by
  intro c hc
  obtain ⟨hc, hne⟩ := List.mem_filter.1 hc
  exact (h c hc).imp (And.imp_left fun hmem => List.mem_filter.2 ⟨hmem, hne⟩)
    (And.imp_left fun hmem => List.mem_filter.2 ⟨hmem, hne⟩)

theorem tried_connect {attempts : List α} {clients : IteratedSet α} (h : st.Tried attempts)
    (hkeeps : st.clients.Keeps clients) : Tried { st with clients } attempts := fun c hc =>
  (h c hc).imp (And.imp_left fun hmem => hkeeps.1 hmem) (And.imp_left fun hmem => hkeeps.2 hmem)

theorem Tried.perm {attempts attempts' : List α} (h : st.Tried attempts)
    (hperm : attempts.Perm attempts') : st.Tried attempts' := by
  intro c hc
  rw [← hperm.count_eq]
  exact h c hc

theorem inv_step {e : BroadcastEvent α} (h : st.Inv) (hstep : st.step e = some st')
    (hcareful : st.Careful e) : st'.Inv := by
  obtain ⟨clients, place, used, disconnected, delivered, stayed⟩ := st
  cases e with
  | connect ws clients' =>
    cases place with
    | ended => cases hstep
    | ready =>
      obtain ⟨-, ⟨⟩⟩ := Option.ite_none_right_eq_some.1 hstep
      exact h
    | sending ws' =>
      obtain ⟨-, ⟨⟩⟩ := Option.ite_none_right_eq_some.1 hstep
      exact tried_connect h hcareful
  | disconnect ws =>
    cases place with
    | ended => cases hstep
    | ready =>
      obtain rfl := Option.some.inj hstep
      exact h
    | sending ws' =>
      obtain rfl := Option.some.inj hstep
      exact tried_discard h ws
  | begins =>
    cases place with
    | ready =>
      obtain rfl := Option.some.inj hstep
      obtain ⟨rfl, rfl⟩ := h
      exact inv_next (fun c hc => Or.inr ⟨hc, rfl⟩) rfl
    | sending ws => cases hstep
    | ended => cases hstep
  | resumes ok =>
    cases place with
    | sending ws =>
      obtain rfl := Option.some.inj hstep
      cases ok with
      | true =>
        have hsent : (ws :: (delivered ++ disconnected)).Perm
            (delivered ++ [ws] ++ disconnected) := by
          rw [List.append_assoc]
          exact List.perm_middle.symm
        exact inv_next (h.perm hsent) hcareful
      | false =>
        have hfailed : (ws :: (delivered ++ disconnected)).Perm
            (delivered ++ (disconnected ++ [ws])) := by
          rw [← List.append_assoc]
          exact (List.perm_append_singleton ws _).symm
        exact inv_next (h.perm hfailed) hcareful
    | ready => cases hstep
    | ended => cases hstep

theorem Inv.endsWell (h : st.Inv) : st.EndsWell := by
  obtain ⟨clients, place, used, disconnected, delivered, stayed⟩ := st
  cases place with
  | ready => trivial
  | sending ws => trivial
  | ended => exact h

/-- In every careful pass, over any number of clients: when it ends, every client that stayed has
been sent the message once, and those whose send failed are gone. -/
theorem broadcast_endsWell {clients : IteratedSet α} {es : List (BroadcastEvent α)}
    (h : EachStep step (fun st e _ => st.Careful e) { clients } es) :
    Always step EndsWell { clients } es := by
  refine ⟨trivial, EachStep.guarded (J := Inv) ?_ ⟨rfl, rfl⟩ h⟩
  intro st e st' hinv hstep hcareful
  have hinv' := inv_step hinv hstep hcareful
  exact ⟨hinv', hinv'.endsWell⟩

/-- A monitor with two clients. -/
def twoClients : IteratedSet ℕ where
  passed := []
  coming := [1, 2]
  nodup := by decide

/-- During the first send a client connects and leaves again; the second send fails. -/
theorem broadcast_endsWell_twoClients :
    Always step EndsWell { clients := twoClients }
      [.begins, .connect 3 ⟨[1], [2, 3], by decide⟩, .disconnect 3, .resumes true,
        .resumes false] := by
  refine broadcast_endsWell fun st hst => ⟨trivial, ?_⟩
  obtain rfl := Option.some.inj hst
  refine fun st hst => ⟨⟨List.Subset.refl _, List.subset_append_left [2] [3]⟩, ?_⟩
  obtain rfl := Option.some.inj hst
  refine fun st hst => ⟨trivial, ?_⟩
  obtain rfl := Option.some.inj hst
  refine fun st hst => ⟨rfl, ?_⟩
  obtain rfl := Option.some.inj hst
  exact fun st hst => ⟨rfl, trivial⟩

/-- A third client connects during the first send: the second one gets nothing. -/
theorem broadcast_aborted : ¬ ∀ (clients : IteratedSet ℕ) es,
    Always step EndsWell { clients } es := by
  intro h
  have hrun :=
    (h twoClients [.begins, .connect 3 ⟨[1], [2, 3], by decide⟩, .resumes true]).of_exec rfl
  exact absurd (hrun.1 2 (by decide)) (by decide)

end Broadcast

end GhostMeter.Api
