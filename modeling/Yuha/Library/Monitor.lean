import Mathlib.Data.List.Forall2
import Yuha.Library.Execution
import Yuha.Library.Program

/-!
# Monitors

A monitor keeps a note on a program: what it has done so far, as far as others have to know
of it. The note changes with every action and its answer, and says which action may come
next. Whatever the calls of an interleaving share can then be described by the notes on the
calls in progress, and a call that has ended leaves a note that says so.
-/

namespace Library.Program

open Execution Interleaved

universe u v w

variable {A : Type u} {Answer : A → Type v} {α β : Type v} {γ : Type w}

/-- Which action a note permits, and the note after an action that was given its answer. -/
structure Monitor (A : Type u) (Answer : A → Type v) (γ : Type w) where
  Permits : γ → A → Prop
  update : γ → (action : A) → Answer action → γ

namespace Monitor

variable (monitor : Monitor A Answer γ)

/-- Whatever it is answered, the program does what its notes permit, and it ends with a
result and a note that satisfy `Q`. -/
def Follows (Q : α → γ → Prop) : Program A Answer α → γ → Prop
  | .done result, note => Q result note
  | .call action next, note =>
      monitor.Permits note action ∧
        ∀ answer, Follows Q (next answer) (monitor.update note action answer)

/-- The action is permitted, and whatever it is answered, the note stays what it is. -/
def Leaves (note : γ) (action : A) : Prop :=
  monitor.Permits note action ∧ ∀ answer, monitor.update note action answer = note

/-- The monitor permits the action, and it notes nothing. -/
def Ignores (action : A) : Prop := ∀ note, monitor.Leaves note action

variable {monitor} {Q R : α → γ → Prop} {p : Program A Answer α} {note : γ}

theorem Follows.mono (h : monitor.Follows Q p note)
    (himp : ∀ result after, Q result after → R result after) : monitor.Follows R p note := by
  induction p generalizing note with
  | done result => exact himp result note h
  | call action next ih => exact ⟨h.1, fun answer => ih answer (h.2 answer)⟩

theorem follows_bind {P : β → γ → Prop} {f : α → Program A Answer β} :
    monitor.Follows P (p >>= f) note ↔
      monitor.Follows (fun result after => monitor.Follows P (f result) after) p note := by
  induction p generalizing note with
  | done result => exact Iff.rfl
  | call action next ih => exact and_congr_right fun _ => forall_congr' fun answer => ih answer

theorem Follows.bind {P : β → γ → Prop} {f : α → Program A Answer β}
    (h : monitor.Follows Q p note)
    (hf : ∀ result after, Q result after → monitor.Follows P (f result) after) :
    monitor.Follows P (p >>= f) note :=
  follows_bind.mpr (h.mono hf)

theorem follows_perform {P : β → γ → Prop} {action : A}
    {next : Answer action → Program A Answer β} :
    monitor.Follows P (perform action >>= next) note ↔ monitor.Permits note action ∧
      ∀ answer, monitor.Follows P (next answer) (monitor.update note action answer) :=
  Iff.rfl

theorem Leaves.follows {P : β → γ → Prop} {action : A}
    {next : Answer action → Program A Answer β} (h : monitor.Leaves note action)
    (hnext : ∀ answer, monitor.Follows P (next answer) note) :
    monitor.Follows P (perform action >>= next) note :=
  follows_perform.mpr ⟨h.1, fun answer => (h.2 answer).symm ▸ hnext answer⟩

/-- A program of actions that this note permits and that leave it leaves it as it is. -/
theorem follows_of_leaves (h : p.Forall fun action _ => monitor.Leaves note action)
    (hQ : ∀ result, Q result note) : monitor.Follows Q p note := by
  induction p with
  | done result => exact hQ result
  | call action next ih =>
      obtain ⟨hpermits, hsame⟩ := h.1
      exact ⟨hpermits, fun answer => (hsame answer).symm ▸ ih answer (h.2 answer)⟩

/-- A program of actions that are ignored leaves the note as it is. -/
theorem follows_of_ignores (h : p.Forall fun action _ => monitor.Ignores action)
    (hQ : ∀ result, Q result note) : monitor.Follows Q p note :=
  follows_of_leaves (h.mono fun _ _ hignores => hignores note) hQ

/-! ### Two monitors -/

variable {δ : Type*}

/-- Two monitors that keep their notes side by side. -/
def both (monitor : Monitor A Answer γ) (other : Monitor A Answer δ) :
    Monitor A Answer (γ × δ) where
  Permits notes action := monitor.Permits notes.1 action ∧ other.Permits notes.2 action
  update notes action answer :=
    (monitor.update notes.1 action answer, other.update notes.2 action answer)

/-- What a program does under each of two monitors it does under both. -/
theorem Follows.both {other : Monitor A Answer δ} {R : α → δ → Prop} {otherNote : δ}
    (h : monitor.Follows Q p note) (hother : other.Follows R p otherNote) :
    (monitor.both other).Follows (fun result after => Q result after.1 ∧ R result after.2) p
      (note, otherNote) := by
  induction p generalizing note otherNote with
  | done result => exact ⟨h, hother⟩
  | call action next ih =>
      exact ⟨⟨h.1, hother.1⟩, fun answer => ih answer (h.2 answer) (hother.2 answer)⟩

end Monitor

/-! ## Calls under a monitor -/

namespace Calls

variable {ι ε : Type*} {σ : Type w} {γ : Type*} {program : ι → Program A Answer PUnit}
  {exec : ε → (action : A) → σ → Answer action × σ}

/-- Each call does what its note permits, and ends with a note that satisfies `Q`. -/
def Monitored (monitor : Monitor A Answer γ) (Q : γ → Prop) (notes : List γ)
    (s : Calls σ A Answer) : Prop :=
  List.Forall₂ (fun p note => monitor.Follows (fun _ after => Q after) p note) s.calls notes

variable {monitor : Monitor A Answer γ} {Q : γ → Prop} {notes : List γ} {s : Calls σ A Answer}

theorem forall₂_set {R : β → γ → Prop} {l : List β} {l' : List γ} (h : List.Forall₂ R l l')
    {i : Nat} {x : β} {y : γ} (hxy : R x y) : List.Forall₂ R (l.set i x) (l'.set i y) := by
  induction h generalizing i with
  | nil => exact .nil
  | cons hfirst hmore ih =>
      cases i with
      | zero => exact .cons hxy hmore
      | succ i => exact .cons hfirst ih

theorem forall₂_getElem? {R : β → γ → Prop} {l : List β} {l' : List γ}
    (h : List.Forall₂ R l l') {i : Nat} {x : β} (hx : l[i]? = some x) :
    ∃ y, l'[i]? = some y ∧ R x y := by
  induction h generalizing i with
  | nil => cases hx
  | @cons first first' more more' hfirst hmore ih =>
      cases i with
      | zero =>
          obtain rfl := Option.some.inj hx
          exact ⟨first', rfl, hfirst⟩
      | succ i => exact ih hx

theorem Monitored.start (h : Monitored monitor Q notes s) {p : Program A Answer PUnit} {note : γ}
    (hp : monitor.Follows (fun _ after => Q after) p note) :
    Monitored monitor Q (notes ++ [note]) { s with calls := s.calls ++ [p] } :=
  List.rel_append h (.cons hp .nil)

theorem Monitored.advance (h : Monitored monitor Q notes s) {i : Nat} {action : A}
    {next : Answer action → Program A Answer PUnit}
    (hcall : s.calls[i]? = some (.call action next)) :
    ∃ note, notes[i]? = some note ∧ monitor.Permits note action ∧
      ∀ answer (shared : σ), Monitored monitor Q (notes.set i (monitor.update note action answer))
        { shared := shared, calls := s.calls.set i (next answer) } := by
  obtain ⟨note, hnote, hpermits, hnext⟩ := forall₂_getElem? h hcall
  exact ⟨note, hnote, hpermits, fun answer shared => forall₂_set h (hnext answer)⟩

/-- What the notes say of the state holds in the whole run: at first, where a call begins
with its first note, and where an action is carried out that the note permits. -/
theorem exists_notes {initial : γ} {G : List (Turn ι ε) → Calls σ A Answer → Turn ι ε → Prop}
    {J : List (Turn ι ε) → List γ → Calls σ A Answer → Prop} {turns : List (Turn ι ε)}
    {shared : σ}
    (hfollows : ∀ operation, monitor.Follows (fun _ after => Q after) (program operation) initial)
    (hguard : Along (step program exec) G ⟨shared, []⟩ turns) (hnew : J [] [] ⟨shared, []⟩)
    (hstart : ∀ past notes s operation, J past notes s →
      J (past ++ [.start operation]) (notes ++ [initial]) (s.step program exec (.start operation)))
    (hidle : ∀ past notes s i environment, J past notes s →
      s.step program exec (.advance i environment) = s →
      J (past ++ [.advance i environment]) notes s)
    (hadvance : ∀ past notes s i environment note action, J past notes s →
      G past s (.advance i environment) → notes[i]? = some note → monitor.Permits note action →
      (s.step program exec (.advance i environment)).shared = (exec environment action s.shared).2 →
      J (past ++ [.advance i environment])
        (notes.set i (monitor.update note action (exec environment action s.shared).1))
        (s.step program exec (.advance i environment))) :
    ∀ past, past <+: turns → ∃ notes,
      Monitored monitor Q notes (Execution.run (step program exec) ⟨shared, []⟩ past) ∧
        J past notes (Execution.run (step program exec) ⟨shared, []⟩ past) := by
  refine hguard.invariant (I := fun past s => ∃ notes, Monitored monitor Q notes s ∧
    J past notes s) ⟨[], .nil, hnew⟩ ?_
  rintro past s turn ⟨notes, hmonitored, hJ⟩ hG
  rcases s.step_cases program exec turn with
    ⟨operation, rfl, hstep⟩ | ⟨i, environment, action, next, rfl, hcall, hstep⟩ | ⟨_, hstep⟩
  · refine ⟨notes ++ [initial], ?_, hstart past notes s operation hJ⟩
    rw [hstep]
    exact hmonitored.start (hfollows operation)
  · obtain ⟨note, hnote, hpermits, hnext⟩ := hmonitored.advance hcall
    refine ⟨_, ?_, hadvance past notes s i environment note action hJ hG hnote hpermits ?_⟩
    · rw [hstep]
      exact hnext _ _
    · rw [hstep]
  · cases turn with
    | start operation =>
        -- A call that starts changes the calls, so this is no case.
        have hcalls := congrArg (fun s => s.calls.length) hstep
        simp [Calls.step] at hcalls
    | advance i environment =>
        rw [hstep]
        exact ⟨notes, hmonitored, hidle past notes s i environment hJ hstep⟩

end Calls

end Library.Program
