/-
# Theory.Machine — event-driven machines and their histories

A machine takes one event at a time and emits outputs.  `final` is the state after a list
of events, `trace` the transitions in between, and what an observer sees of a run is a
function of its trace.  The rules are stated for the last event, so an invariant may speak
about everything that happened before it:

* `final_snoc`, `trace_snoc` — a run and one more event;
* `run_induction` — a property of histories and states that holds at the start and is kept
  by every step holds after every run;
* `Since` — something happened, and what came behind it kept a condition;
* `Always` — a condition on every event of a run and the events in front of it;
* `prefixes_of_turns`, `prefixes_iff_turns` — what holds all along a run, from such a condition.
-/
import Mathlib.Algebra.BigOperators.Group.List.Basic
import Mathlib.Data.List.AList
import Mathlib.Data.List.Induction

namespace IsgConsole.Theory

set_option autoImplicit false

/-- A `QHash`: values under pairwise different keys. -/
abbrev Hash (K V : Type) := AList fun _ : K => V

namespace Hash

variable {K V : Type} [DecidableEq K]

theorem erase_insert_self (key : K) (v : V) (table : Hash K V) :
    (table.insert key v).erase key = table.erase key := by
  apply AList.ext
  show List.kerase key (List.kinsert key v table.entries) = List.kerase key table.entries
  rw [List.kinsert_def]
  exact List.kerase_cons_eq rfl

theorem erase_of_not_mem {key : K} {table : Hash K V} (absent : key ∉ table) :
    table.erase key = table := by
  apply AList.ext
  exact List.kerase_of_notMem_keys absent

/-- What is found after an insertion is the new value or an old one. -/
theorem of_lookup_insert {key other : K} {v w : V} {table : Hash K V}
    (found : (table.insert key v).lookup other = some w) :
    other = key ∧ w = v ∨ other ≠ key ∧ table.lookup other = some w := by
  by_cases this : other = key
  · subst this
    rw [AList.lookup_insert] at found
    exact .inl ⟨rfl, (Option.some.inj found).symm⟩
  · rw [AList.lookup_insert_ne this] at found
    exact .inr ⟨this, found⟩

/-- What is found after a removal was there under another key. -/
theorem of_lookup_erase {key other : K} {w : V} {table : Hash K V}
    (found : (table.erase key).lookup other = some w) :
    other ≠ key ∧ table.lookup other = some w := by
  have this : other ≠ key := by
    rintro rfl
    rw [AList.lookup_erase] at found
    cases found
  rw [AList.lookup_erase_ne this] at found
  exact ⟨this, found⟩

/-- A removal takes one value out. -/
theorem length_erase {key : K} {table : Hash K V} (there : key ∈ table) :
    (table.erase key).keys.length + 1 = table.keys.length := by
  rw [AList.keys_erase]
  exact List.length_erase_add_one there

/-- An insertion leaves at most one value more. -/
theorem length_insert_le (key : K) (v : V) (table : Hash K V) :
    (table.insert key v).keys.length ≤ table.keys.length + 1 := by
  rw [AList.keys_insert, List.length_cons]
  exact Nat.succ_le_succ List.length_erase_le

theorem length_insert_of_mem {key : K} (v : V) {table : Hash K V} (there : key ∈ table) :
    (table.insert key v).keys.length = table.keys.length := by
  rw [AList.keys_insert, List.length_cons]
  exact List.length_erase_add_one there

/-- The entries are the one that is found and the others. -/
theorem entries_perm {key : K} {v : V} {table : Hash K V} (held : table.lookup key = some v) :
    table.entries.Perm (⟨key, v⟩ :: (table.erase key).entries) := by
  have there : key ∈ table.entries.keys :=
    AList.lookup_isSome.mp (Option.isSome_of_eq_some held)
  obtain ⟨w, first, rest, absent, split, erased⟩ := List.exists_of_kerase there
  have found : table.lookup key = some w := by
    rw [AList.lookup, split, List.dlookup_append, List.dlookup_eq_none.mpr absent]
    exact List.dlookup_cons_eq _ _ _
  obtain rfl : v = w := Option.some.inj (held.symm.trans found)
  show table.entries.Perm (⟨key, v⟩ :: List.kerase key table.entries)
  rw [erased, split]
  exact List.perm_middle

theorem mem_of_lookup {key : K} {v : V} {table : Hash K V} (held : table.lookup key = some v) :
    key ∈ table :=
  AList.lookup_isSome.mp (Option.isSome_of_eq_some held)

/-- The table with every value changed in place. -/
def mapValues (f : K → V → V) (table : Hash K V) : Hash K V :=
  ⟨table.entries.map (.map id f), table.nodupKeys.map₂ f _⟩

/-- The table with the value under one key changed in place. -/
def modify (key : K) (f : V → V) : Hash K V → Hash K V :=
  mapValues fun k v => if k = key then f v else v

@[simp] theorem lookup_mapValues (f : K → V → V) (table : Hash K V) (key : K) :
    (table.mapValues f).lookup key = (table.lookup key).map (f key) :=
  List.dlookup_map₂ key

@[simp] theorem mem_mapValues {f : K → V → V} {table : Hash K V} {key : K} :
    key ∈ table.mapValues f ↔ key ∈ table := by
  rw [← AList.lookup_isSome, ← AList.lookup_isSome, lookup_mapValues, Option.isSome_map]

@[simp] theorem lookup_modify_self (key : K) (f : V → V) (table : Hash K V) :
    (table.modify key f).lookup key = (table.lookup key).map f := by
  simp [modify]

@[simp] theorem lookup_modify_ne {key other : K} (apart : other ≠ key) (f : V → V)
    (table : Hash K V) : (table.modify key f).lookup other = table.lookup other := by
  simp [modify, apart]

@[simp] theorem mem_modify {key other : K} {f : V → V} {table : Hash K V} :
    other ∈ table.modify key f ↔ other ∈ table :=
  mem_mapValues

end Hash

namespace Machine

variable {σ ε ο : Type}

/-- One step of a run. -/
structure Transition (σ ε ο : Type) where
  before : σ
  event : ε
  outputs : List ο
  after : σ

/-- A transition by what its step returns. -/
abbrev transitionTo (s : σ) (e : ε) (r : σ × List ο) : Transition σ ε ο :=
  { before := s, event := e, outputs := r.2, after := r.1 }

variable (step : σ → ε → σ × List ο)

/-- The step from a state on an event. -/
def transition (s : σ) (e : ε) : Transition σ ε ο := transitionTo s e (step s e)

def final (s : σ) (es : List ε) : σ := es.foldl (fun s e => (step s e).1) s

def trace : σ → List ε → List (Transition σ ε ο)
  | _, [] => []
  | s, e :: es => transition step s e :: trace (step s e).1 es

/-- Everything a run emits. -/
def outputs (s : σ) (es : List ε) : List ο := (trace step s es).flatMap Transition.outputs

theorem final_append (s : σ) (es fs : List ε) :
    final step s (es ++ fs) = final step (final step s es) fs :=
  List.foldl_append

theorem final_snoc (s : σ) (es : List ε) (e : ε) :
    final step s (es ++ [e]) = (step (final step s es) e).1 := by
  rw [final_append]
  rfl

theorem trace_append (s : σ) (es fs : List ε) :
    trace step s (es ++ fs) = trace step s es ++ trace step (final step s es) fs := by
  induction es generalizing s with
  | nil => rfl
  | cons e es ih =>
      rw [List.cons_append, trace, ih, trace]
      rfl

theorem trace_snoc (s : σ) (es : List ε) (e : ε) :
    trace step s (es ++ [e]) = trace step s es ++ [transition step (final step s es) e] := by
  rw [trace_append]
  rfl

theorem events_trace (s : σ) (es : List ε) :
    (trace step s es).map Transition.event = es := by
  induction es generalizing s with
  | nil => rfl
  | cons e es ih => rw [trace, List.map_cons, ih, transition]

/-- A transition of a run is the step on its event behind a part of the run. -/
theorem exists_of_mem_trace {s : σ} {es : List ε} {t : Transition σ ε ο}
    (here : t ∈ trace step s es) : ∃ first rest, es = first ++ t.event :: rest ∧
      t = transition step (final step s first) t.event := by
  induction es generalizing s with
  | nil => cases here
  | cons e es ih =>
      rcases List.mem_cons.mp here with rfl | later
      · exact ⟨[], es, rfl, rfl⟩
      · obtain ⟨first, rest, split, same⟩ := ih later
        exact ⟨e :: first, rest, by rw [split]; rfl, same⟩

theorem outputs_snoc (s : σ) (es : List ε) (e : ε) :
    outputs step s (es ++ [e]) = outputs step s es ++ (step (final step s es) e).2 := by
  rw [outputs, trace_snoc, List.flatMap_append, List.flatMap_singleton]
  rfl

/-- What an observer picks out of a run and one more step. -/
theorem observe_snoc {α τ : Type} (observe : τ → Option α) (ts : List τ) (t : τ) :
    (ts ++ [t]).filterMap observe = ts.filterMap observe ++ (observe t).toList := by
  rw [List.filterMap_append, List.filterMap_cons]
  cases observe t <;> rfl

/-- What an observer adds up over a run and one more step. -/
theorem sum_snoc {α τ : Type} [AddMonoid α] (observe : τ → α) (h : List τ) (t : τ) :
    ((h ++ [t]).map observe).sum = (h.map observe).sum + observe t := by
  rw [List.map_append, List.sum_append]
  simp

/-- **The run rule.** -/
theorem run_induction {s₀ : σ} {P : List (Transition σ ε ο) → σ → Prop} (start : P [] s₀)
    (keep : ∀ es e, P (trace step s₀ es) (final step s₀ es) →
      P (trace step s₀ es ++ [transition step (final step s₀ es) e])
        (transition step (final step s₀ es) e).after)
    (es : List ε) : P (trace step s₀ es) (final step s₀ es) := by
  induction es using List.reverseRecOn with
  | nil => exact start
  | append_singleton es e ih =>
      rw [trace_snoc, final_snoc]
      exact keep es e ih

/-! ## Since -/

/-- Something of the first kind is there, and only the second kind behind it. -/
def Since {τ : Type} (P Q : τ → Prop) (h : List τ) : Prop :=
  ∃ first t rest, h = first ++ t :: rest ∧ P t ∧ ∀ u ∈ rest, Q u

theorem not_since_nil {τ : Type} {P Q : τ → Prop} : ¬ Since P Q [] := by
  rintro ⟨first, t, rest, split, -⟩
  simp at split

theorem since_snoc {τ : Type} {P Q : τ → Prop} {h : List τ} {t : τ} :
    Since P Q (h ++ [t]) ↔ P t ∨ Q t ∧ Since P Q h := by
  constructor
  · rintro ⟨first, t', rest, split, there, behind⟩
    rcases List.eq_nil_or_concat rest with rfl | ⟨rest, last, rfl⟩
    · obtain ⟨-, same⟩ := List.append_inj' split rfl
      rw [List.head_eq_of_cons_eq same]
      exact .inl there
    · rw [List.concat_eq_append, ← List.cons_append, ← List.append_assoc] at split
      obtain ⟨earlier, same⟩ := List.append_inj' split rfl
      rw [List.head_eq_of_cons_eq same]
      exact .inr ⟨behind last (by simp), first, t', rest, earlier, there,
        fun u here => behind u (by simp [here])⟩
  · rintro (there | ⟨kept, first, t', rest, rfl, there, behind⟩)
    · exact ⟨h, t, [], rfl, there, fun u here => by cases here⟩
    · refine ⟨first, t', rest ++ [t], by simp, there, fun u here => ?_⟩
      rcases List.mem_append.mp here with earlier | last
      · exact behind u earlier
      · rw [List.mem_singleton.mp last]
        exact kept

/-! ## Conditions on every event -/

/-- Every event of a run meets a condition, which may speak of the events in front of it. -/
def Always (P : List ε → ε → Prop) (es : List ε) : Prop :=
  ∀ first e rest, es = first ++ e :: rest → P first e

section Always

variable {P : List ε → ε → Prop} {es fs : List ε} {e : ε}

theorem always_nil : Always P [] := by
  intro first e rest split
  simp at split

theorem always_append : Always P (es ++ fs) ↔
    Always P es ∧ Always (fun first => P (es ++ first)) fs := by
  constructor
  · intro always
    constructor
    · rintro first e rest rfl
      exact always first e (rest ++ fs) (by simp)
    · rintro first e rest rfl
      exact always (es ++ first) e rest (by simp)
  · rintro ⟨front, back⟩ first e rest split
    rcases List.append_eq_append_iff.mp split with ⟨mid, rfl, behind⟩ | ⟨mid, inside, behind⟩
    · exact back mid e rest behind
    · cases mid with
      | nil =>
          rw [List.append_nil] at inside
          subst inside
          rw [← List.append_nil es]
          exact back [] e rest behind.symm
      | cons e' mid =>
          obtain ⟨rfl, rfl⟩ := List.cons.inj behind
          exact front first e mid inside

theorem always_single : Always P [e] ↔ P [] e := by
  constructor
  · intro always
    exact always [] e [] rfl
  · intro holds first e' rest split
    cases first with
    | nil =>
        obtain ⟨rfl, -⟩ := List.cons.inj split
        exact holds
    | cons => simp at split

theorem always_snoc : Always P (es ++ [e]) ↔ Always P es ∧ P es e := by
  rw [always_append, always_single, List.append_nil]

theorem always_cons : Always P (e :: es) ↔ P [] e ∧ Always (fun first => P (e :: first)) es := by
  rw [← List.singleton_append, always_append, always_single]
  rfl

/-- **What every state of a run has**: a property of histories that holds at the start and is kept
by every event that meets a condition. -/
theorem prefixes_of_turns {Q : List ε → Prop} (start : Q [])
    (turn : ∀ first e, first ++ [e] <+: es → Q first → P first e → Q (first ++ [e]))
    (always : Always P es) : ∀ first, first <+: es → Q first := by
  intro first
  induction first using List.reverseRecOn with
  | nil => exact fun _ => start
  | append_singleton first e ih =>
      intro here
      obtain ⟨rest, split⟩ := here
      have meets := always first e rest (by simp [← split])
      exact turn first e ⟨rest, split⟩ (ih ⟨e :: rest, by simp [← split]⟩) meets

/-- When an event keeps it exactly under the condition, it holds all along a run exactly when every
event meets the condition. -/
theorem prefixes_iff_turns {Q : List ε → Prop} (start : Q [])
    (turn : ∀ first e, first ++ [e] <+: es → Q first → (Q (first ++ [e]) ↔ P first e)) :
    (∀ first, first <+: es → Q first) ↔ Always P es := by
  constructor
  · intro all first e rest split
    have here : first ++ [e] <+: es := ⟨rest, by simp [split]⟩
    exact (turn first e here (all first ⟨e :: rest, split.symm⟩)).mp (all _ here)
  · exact prefixes_of_turns start fun first e here holds => (turn first e here holds).mpr

/-- The same for a property of states. -/
theorem prefixes_of_always {I : σ → Prop} {C : σ → ε → Prop} {s₀ : σ} (start : I s₀)
    (turn : ∀ s e, I s → C s e → I (step s e).1)
    (always : Always (fun first e => C (final step s₀ first) e) es) :
    ∀ first, first <+: es → I (final step s₀ first) := by
  refine prefixes_of_turns start (fun first e _ holds meets => ?_) always
  rw [final_snoc]
  exact turn _ e holds meets

theorem prefixes_iff_always {I : σ → Prop} {C : σ → ε → Prop} {s₀ : σ} (start : I s₀)
    (turn : ∀ s e, I s → (I (step s e).1 ↔ C s e)) (es : List ε) :
    (∀ first, first <+: es → I (final step s₀ first)) ↔
      Always (fun first e => C (final step s₀ first) e) es := by
  refine prefixes_iff_turns start fun first e _ holds => ?_
  rw [final_snoc]
  exact turn _ e holds

end Always

/-- A condition that can be decided for one event can be decided for a run. -/
def decideAlways : (es : List ε) → (P : List ε → ε → Prop) →
    [∀ first e, Decidable (P first e)] → Decidable (Always P es)
  | [], _, _ => .isTrue always_nil
  | e :: es, P, _ =>
      have : Decidable (Always (fun first => P (e :: first)) es) := decideAlways es _
      decidable_of_iff' _ always_cons

instance (P : List ε → ε → Prop) (es : List ε) [∀ first e, Decidable (P first e)] :
    Decidable (Always P es) :=
  decideAlways es P

end Machine

end IsgConsole.Theory
