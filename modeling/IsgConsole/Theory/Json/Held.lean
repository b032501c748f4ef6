/-
# Theory.Json.Held — what a store keeps of a value

A store that keeps the members of an object in key order, the last of those with one key, and of a
number the one that `round` gives, or null.  `held round v` is what it keeps of `v`.

* `ofInserts_of_sorted`, `ofInserts_sorted` — the members that inserting leaves as they are, and that
  it leads to;
* `value_held` — a member is kept under its key;
* `held_of_isHeld` — **the values that are kept as they are.**
-/
import IsgConsole.Theory.Json.Value

namespace IsgConsole.Theory

set_option autoImplicit false

/-! ## Members in key order -/

namespace JsonObject

/-- Keys in strict order, so each stands once. -/
def Sorted (members : JsonObject) : Prop := members.Pairwise fun m n => m.1 < n.1

instance (members : JsonObject) : Decidable members.Sorted :=
  inferInstanceAs (Decidable (members.Pairwise _))

theorem lt_of_not_lt {key other : Bytes} (before : ¬ key < other) (ne : other ≠ key) :
    other < key := by
  rcases List.le_iff_lt_or_eq.mp (List.not_lt.mp before) with less | same
  · exact less
  · exact absurd same ne

theorem place_sorted {key : Bytes} (v : Json) {members : JsonObject} (sorted : members.Sorted)
    (fresh : ∀ m ∈ members, m.1 ≠ key) : Sorted (place key v members) := by
  induction members with
  | nil => exact List.pairwise_singleton _ _
  | cons m members ih =>
      obtain ⟨k, w⟩ := m
      obtain ⟨first, others⟩ := List.pairwise_cons.mp sorted
      rw [place]
      split
      next before =>
        refine List.pairwise_cons.mpr ⟨List.forall_mem_cons.mpr ⟨before, fun m later => ?_⟩, sorted⟩
        exact List.lt_trans before (first m later)
      next before =>
        refine List.pairwise_cons.mpr ⟨fun m there => ?_, ih others fun m later =>
          fresh m (List.mem_cons_of_mem _ later)⟩
        rcases mem_place there with rfl | later
        · exact lt_of_not_lt before (fresh (k, w) List.mem_cons_self)
        · exact first m later

theorem insert_sorted (key : Bytes) (v : Json) {members : JsonObject} (sorted : members.Sorted) :
    Sorted (insert key v members) :=
  place_sorted v (List.Pairwise.filter _ sorted) fun m there => by
    simpa using (List.mem_filter.mp there).2

/-- Members that are inserted are in key order. -/
theorem ofInserts_sorted (members : List (Bytes × Json)) : Sorted (ofInserts members) := by
  induction members using List.reverseRecOn with
  | nil => exact List.Pairwise.nil
  | append_singleton members m ih =>
      rw [← List.concat_eq_append, ofInserts_concat]
      exact insert_sorted _ _ ih

theorem place_last {key : Bytes} (v : Json) {members : JsonObject}
    (last : ∀ m ∈ members, m.1 < key) : place key v members = members ++ [(key, v)] := by
  induction members with
  | nil => rfl
  | cons m members ih =>
      have behind : ¬ key < m.1 := List.lt_asymm (last m List.mem_cons_self)
      rw [place, if_neg behind, ih fun m later => last m (List.mem_cons_of_mem _ later),
        List.cons_append]

/-- Members in key order stay as they are. -/
theorem ofInserts_of_sorted {members : JsonObject} (sorted : members.Sorted) :
    ofInserts members = members := by
  induction members using List.reverseRecOn with
  | nil => rfl
  | append_singleton members m ih =>
      obtain ⟨before, -, last⟩ := List.pairwise_append.mp sorted
      have below : ∀ n ∈ members, n.1 < m.1 := fun n there => last n there m (List.mem_singleton_self m)
      have fresh : members.filter (fun n => n.1 ≠ m.1) = members :=
        List.filter_eq_self.mpr fun n there => decide_eq_true fun same =>
          List.lt_irrefl m.1 (same ▸ below n there)
      rw [← List.concat_eq_append, ofInserts_concat, ih before, insert, fresh, place_last _ below,
        List.concat_eq_append]

theorem exists_mem_of_value {key : Bytes} {v : Json} {members : JsonObject}
    (found : value key members = some v) : ∃ m ∈ members, m.2 = v := by
  induction members with
  | nil => cases found
  | cons m members ih =>
      rw [value] at found
      cases later : value key members with
      | some w =>
          obtain ⟨n, there, rfl⟩ := ih (later.trans (by rwa [later] at found))
          exact ⟨n, List.mem_cons_of_mem _ there, rfl⟩
      | none =>
          rw [later] at found
          dsimp only at found
          split at found
          next => exact ⟨m, List.mem_cons_self, Option.some.inj found⟩
          next => cases found

/-- A map of the values leaves the members where they are. -/
theorem value_mapValues (f : Json → Json) (key : Bytes) (members : JsonObject) :
    value key (members.map fun m => (m.1, f m.2)) = (value key members).map f := by
  induction members with
  | nil => rfl
  | cons m members ih =>
      rw [List.map_cons, value, ih, value]
      cases value key members with
      | some later => rfl
      | none =>
          dsimp only [Option.map_none]
          split <;> rfl

end JsonObject

/-! ## What is kept -/

namespace Json

section Held

variable (round : Decimal → Option Decimal)

mutual

/-- What is kept of a value. -/
def held : Json → Json
  | .null => .null
  | .bool b => .bool b
  | .number d =>
      match round d with
      | some kept => .number kept
      | none => .null
  | .string s => .string s
  | .array vs => .array (heldElements vs)
  | .object ms => objectOf (heldMembers ms)

def heldElements : List Json → List Json
  | [] => []
  | v :: vs => held v :: heldElements vs

def heldMembers : List (Bytes × Json) → List (Bytes × Json)
  | [] => []
  | (key, v) :: ms => (key, held v) :: heldMembers ms

end

theorem heldElements_eq (vs : List Json) : heldElements round vs = vs.map (held round) := by
  induction vs with
  | nil => rfl
  | cons v vs ih => rw [heldElements, ih, List.map_cons]

theorem heldMembers_eq (ms : List (Bytes × Json)) :
    heldMembers round ms = ms.map fun m => (m.1, held round m.2) := by
  induction ms with
  | nil => rfl
  | cons m ms ih => rw [heldMembers, ih, List.map_cons]

theorem held_array (vs : List Json) :
    held round (.array vs) = .array (vs.map (held round)) := by
  rw [held, heldElements_eq]

/-- **A member is kept under its key.** -/
theorem value_held (key : Bytes) (v : Json) :
    (held round v).toObject.value key = (v.toObject.value key).map (held round) := by
  cases v with
  | object ms =>
      show JsonObject.value key (JsonObject.ofInserts (heldMembers round ms)) = _
      rw [JsonObject.value_ofInserts, heldMembers_eq, JsonObject.value_mapValues]
      rfl
  | number d =>
      rw [held]
      split <;> rfl
  | _ => rfl

theorem value_held_object (key : Bytes) (ms : JsonObject) :
    (held round (.object ms)).toObject.value key = (ms.value key).map (held round) :=
  value_held round key (.object ms)

theorem get_held (key : Bytes) (v : Json) :
    (held round v).toObject.get key = held round (v.toObject.get key) := by
  rw [JsonObject.get, value_held, JsonObject.get]
  cases v.toObject.value key <;> rfl

/-! ## Values that are kept as they are -/

mutual

/-- Objects are in key order, and numbers are kept. -/
def isHeld : Json → Bool
  | .null | .bool _ | .string _ => true
  | .number d => round d = some d
  | .array vs => isHeldElements vs
  | .object ms => JsonObject.Sorted ms && isHeldMembers ms

def isHeldElements : List Json → Bool
  | [] => true
  | v :: vs => isHeld v && isHeldElements vs

def isHeldMembers : List (Bytes × Json) → Bool
  | [] => true
  | (_, v) :: ms => isHeld v && isHeldMembers ms

end

theorem isHeldMembers_iff (ms : List (Bytes × Json)) :
    isHeldMembers round ms = true ↔ ∀ m ∈ ms, isHeld round m.2 = true := by
  induction ms with
  | nil => simp [isHeldMembers]
  | cons m ms ih => rw [isHeldMembers, Bool.and_eq_true, ih, List.forall_mem_cons]

/-- A member of such a value is one too. -/
theorem isHeld_value {v w : Json} {key : Bytes} (kept : isHeld round v = true)
    (found : v.toObject.value key = some w) : isHeld round w = true := by
  cases v with
  | object ms =>
      obtain ⟨-, values⟩ := Bool.and_eq_true_iff.mp kept
      obtain ⟨m, there, rfl⟩ := JsonObject.exists_mem_of_value found
      exact (isHeldMembers_iff round ms).mp values m there
  | _ => cases found

theorem isHeld_get {v : Json} (kept : isHeld round v = true) (key : Bytes) :
    isHeld round (v.toObject.get key) = true := by
  unfold JsonObject.get
  cases found : v.toObject.value key with
  | none => rfl
  | some w => exact isHeld_value round kept found

theorem isHeld_objectOf {members : List (Bytes × Json)}
    (values : ∀ m ∈ members, isHeld round m.2 = true) : isHeld round (objectOf members) = true := by
  rw [objectOf, isHeld, Bool.and_eq_true, isHeldMembers_iff]
  exact ⟨decide_eq_true (JsonObject.ofInserts_sorted members),
    fun m there => values m (JsonObject.mem_ofInserts there)⟩

mutual

/-- **They are kept as they are.** -/
theorem held_of_isHeld : ∀ {v : Json}, isHeld round v = true → held round v = v
  | .null, _ => rfl
  | .bool _, _ => rfl
  | .string _, _ => rfl
  | .number d, kept => by
      have same : round d = some d := of_decide_eq_true kept
      rw [held, same]
  | .array vs, kept => by rw [held, heldElements_of_isHeld kept]
  | .object ms, kept => by
      obtain ⟨sorted, values⟩ := Bool.and_eq_true_iff.mp kept
      rw [held, heldMembers_of_isHeld values, objectOf,
        JsonObject.ofInserts_of_sorted (of_decide_eq_true sorted)]

theorem heldElements_of_isHeld :
    ∀ {vs : List Json}, isHeldElements round vs = true → heldElements round vs = vs
  | [], _ => rfl
  | v :: vs, kept => by
      obtain ⟨first, others⟩ := Bool.and_eq_true_iff.mp kept
      rw [heldElements, held_of_isHeld first, heldElements_of_isHeld others]

theorem heldMembers_of_isHeld :
    ∀ {ms : List (Bytes × Json)}, isHeldMembers round ms = true → heldMembers round ms = ms
  | [], _ => rfl
  | (_, v) :: ms, kept => by
      obtain ⟨first, others⟩ := Bool.and_eq_true_iff.mp kept
      rw [heldMembers, held_of_isHeld first, heldMembers_of_isHeld others]

end

variable {round}

/-- What is kept of a number is kept as it is. -/
def Once (round : Decimal → Option Decimal) : Prop :=
  ∀ d kept, round d = some kept → round kept = some kept

mutual

/-- **So is what is kept of a value.** -/
theorem isHeld_held (once : Once round) : ∀ v : Json, isHeld round (held round v) = true
  | .null | .bool _ | .string _ => rfl
  | .number d => by
      rw [held]
      cases near : round d with
      | none => rfl
      | some kept => exact decide_eq_true (once d kept near)
  | .array vs => isHeldElements_held once vs
  | .object ms =>
      isHeld_objectOf round ((isHeldMembers_iff round _).mp (isHeldMembers_held once ms))

theorem isHeldElements_held (once : Once round) :
    ∀ vs : List Json, isHeldElements round (heldElements round vs) = true
  | [] => rfl
  | v :: vs => Bool.and_eq_true_iff.mpr ⟨isHeld_held once v, isHeldElements_held once vs⟩

theorem isHeldMembers_held (once : Once round) :
    ∀ ms : List (Bytes × Json), isHeldMembers round (heldMembers round ms) = true
  | [] => rfl
  | (_, v) :: ms => Bool.and_eq_true_iff.mpr ⟨isHeld_held once v, isHeldMembers_held once ms⟩

end

end Held

end Json

end IsgConsole.Theory
