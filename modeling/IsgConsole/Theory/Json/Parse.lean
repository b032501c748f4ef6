/-
# Theory.Json.Parse — the recursive-descent reader

`readValue` and its siblings read the productions of `Theory.Json.Text` with one byte of
fuel for every byte of text.  `read_complete` says they find every derivation, so a text
denotes at most one value (`Denotes.unique`): the one `parse` returns
(`parse_of_denotes`).
-/
import IsgConsole.Theory.Json.Text

namespace IsgConsole.Theory.Json

set_option autoImplicit false

def readWord (word : Bytes) (v : Json) (bs : Bytes) : Option (Json × Bytes) :=
  if word.isPrefixOf bs then some (v, bs.drop word.length) else none

mutual

def readValue : Nat → Bytes → Option (Json × Bytes)
  | 0, _ => none
  | fuel + 1, bs =>
      match skipWs bs with
      | [] => none
      | c :: r =>
          if c = lbracket then
            match skipWs r with
            | [] => none
            | d :: rest =>
                if d = rbracket then some (.array [], rest)
                else do
                  let (v, r') ← readValue fuel r
                  let (vs, rest) ← readElements fuel r'
                  return (.array (v :: vs), rest)
          else if c = lbrace then
            match skipWs r with
            | [] => none
            | d :: rest =>
                if d = rbrace then some (.object [], rest)
                else do
                  let (m, r') ← readMember fuel r
                  let (ms, rest) ← readMembers fuel r'
                  return (.object (m :: ms), rest)
          else if c = quote then do
            let (s, rest) ← readString r
            return (.string s, rest)
          else if c = 0x6E then readWord [0x75, 0x6C, 0x6C] .null r
          else if c = 0x74 then readWord [0x72, 0x75, 0x65] (.bool .true) r
          else if c = 0x66 then readWord [0x61, 0x6C, 0x73, 0x65] (.bool .false) r
          else do
            let (d, rest) ← readNumber (c :: r)
            return (.number d, rest)

def readElements : Nat → Bytes → Option (List Json × Bytes)
  | 0, _ => none
  | fuel + 1, bs =>
      match skipWs bs with
      | [] => none
      | c :: r =>
          if c = rbracket then some ([], r)
          else if c = comma then do
            let (v, r') ← readValue fuel r
            let (vs, rest) ← readElements fuel r'
            return (v :: vs, rest)
          else none

def readMember : Nat → Bytes → Option ((Bytes × Json) × Bytes)
  | 0, _ => none
  | fuel + 1, bs =>
      match skipWs bs with
      | [] => none
      | c :: r =>
          if c = quote then do
            let (key, r₁) ← readString r
            match skipWs r₁ with
            | [] => none
            | d :: r₂ =>
                if d = colon then do
                  let (v, rest) ← readValue fuel r₂
                  return ((key, v), rest)
                else none
          else none

def readMembers : Nat → Bytes → Option (JsonObject × Bytes)
  | 0, _ => none
  | fuel + 1, bs =>
      match skipWs bs with
      | [] => none
      | c :: r =>
          if c = rbrace then some ([], r)
          else if c = comma then do
            let (m, r') ← readMember fuel r
            let (ms, rest) ← readMembers fuel r'
            return (m :: ms, rest)
          else none

end

/-- The value a whole text stands for: one value with white space around it. -/
def parse (bs : Bytes) : Option Json :=
  match readValue bs.length bs with
  | some (v, rest) => if skipWs rest = [] then some v else none
  | none => none

/-- Behind an opening bracket the reader finds an array or nothing. -/
theorem parse_bracket {bs : Bytes} {v : Json} (read : parse (lbracket :: bs) = some v) :
    ∃ vs, v = .array vs := by
  have opened : skipWs (lbracket :: bs) = lbracket :: bs := rfl
  simp only [parse, List.length_cons, readValue, opened, if_true] at read
  cases inside : skipWs bs with
  | nil => simp only [inside] at read; cases read
  | cons d rest =>
      simp only [inside] at read
      by_cases closed : d = rbracket
      · simp only [if_pos closed] at read
        split at read
        · exact ⟨[], (Option.some.inj read).symm⟩
        · cases read
      · simp only [if_neg closed] at read
        cases first : readValue bs.length bs with
        | none => simp [first] at read
        | some p =>
            cases others : readElements bs.length p.2 with
            | none => simp [first, others] at read
            | some q =>
                simp only [first, others, Option.bind_eq_bind, Option.bind_some, Option.pure_def]
                  at read
                split at read
                · exact ⟨_, (Option.some.inj read).symm⟩
                · cases read

/-! ## The reader finds every derivation -/

theorem readWord_self (word : Bytes) (v : Json) (rest : Bytes) :
    readWord word v (word ++ rest) = some (v, rest) := by
  have starts : word.isPrefixOf (word ++ rest) = .true :=
    List.isPrefixOf_iff_prefix.mpr (List.prefix_append word rest)
  rw [readWord, if_pos starts, List.drop_left]

/-- A number starts with its sign or a digit. -/
theorem readNumber_head {c : UInt8} {r rest : Bytes} {d : Decimal}
    (read : readNumber (c :: r) = some (d, rest)) : c = minus ∨ isDigit c := by
  by_contra other
  rw [not_or] at other
  obtain ⟨notMinus, notDigit⟩ := other
  obtain ⟨_, _, _, whole, -⟩ := readNumber_cases read
  rw [readSign, if_neg notMinus, List.takeWhile_cons, if_neg notDigit] at whole
  exact absurd whole (by decide)

/-- It starts neither a structure, nor a string, nor a word. -/
theorem readNumber_opens {c : UInt8} {r rest : Bytes} {d : Decimal}
    (read : readNumber (c :: r) = some (d, rest)) :
    c ≠ lbracket ∧ c ≠ lbrace ∧ c ≠ quote ∧ c ≠ 0x6E ∧ c ≠ 0x74 ∧ c ≠ 0x66 := by
  have starts := readNumber_head read
  refine ⟨?_, ?_, ?_, ?_, ?_, ?_⟩ <;>
    · rintro rfl
      exact absurd starts (by decide)

/-- The text of a number has a first byte. -/
theorem exists_head_of_number {bs rest : Bytes} {d : Decimal}
    (read : readNumber bs = some (d, rest)) : ∃ c r, bs = c :: r :=
  List.exists_cons_of_ne_nil
    (List.length_pos_iff.mp (Nat.zero_lt_of_lt (readNumber_length read)))

/-- A value starts with something that does not close an array. -/
theorem Reads.value_head {bs rest : Bytes} {v : Json} (reads : Reads bs (.value v) rest) :
    ∃ c r, skipWs bs = c :: r ∧ c ≠ rbracket := by
  cases reads with
  | null word | true word | false word => exact ⟨_, _, word, by decide⟩
  | string opened _ => exact ⟨_, _, opened, by decide⟩
  | emptyArray opened _ => exact ⟨_, _, opened, by decide⟩
  | array opened _ _ => exact ⟨_, _, opened, by decide⟩
  | emptyObject opened _ => exact ⟨_, _, opened, by decide⟩
  | object opened _ _ => exact ⟨_, _, opened, by decide⟩
  | number digits =>
      obtain ⟨c, r, found⟩ := exists_head_of_number digits
      refine ⟨c, r, found, ?_⟩
      rintro rfl
      rw [found] at digits
      exact absurd (readNumber_head digits) (by decide)

/-- The reader returns the production and what follows it. -/
def Production.Found (fuel : Nat) (bs rest : Bytes) : Production → Prop
  | .value v => readValue fuel bs = some (v, rest)
  | .elements vs => readElements fuel bs = some (vs, rest)
  | .member key v => readMember fuel bs = some ((key, v), rest)
  | .members ms => readMembers fuel bs = some (ms, rest)

/-- Reading on behind a byte needs one unit less. -/
theorem fuel_succ {bs r : Bytes} {c : UInt8} {fuel : Nat} (found : skipWs bs = c :: r)
    (enough : bs.length ≤ fuel) : ∃ k, fuel = k + 1 ∧ r.length ≤ k := by
  have shorter := skipWs_cons_length found
  exact ⟨fuel - 1, by omega, by omega⟩

/-- **Completeness.**  Every derivation is found with a byte of fuel for a byte of text. -/
theorem read_complete {bs rest : Bytes} {p : Production} (reads : Reads bs p rest) (fuel : Nat)
    (enough : bs.length ≤ fuel) : p.Found fuel bs rest := by
  induction reads generalizing fuel with
  | @null bs rest word =>
      obtain ⟨k, rfl, -⟩ := fuel_succ word enough
      have rest_read := readWord_self [0x75, 0x6C, 0x6C] .null rest
      simpa [Production.Found, readValue, word, lbracket, lbrace, quote] using rest_read
  | @true bs rest word =>
      obtain ⟨k, rfl, -⟩ := fuel_succ word enough
      have rest_read := readWord_self [0x72, 0x75, 0x65] (.bool .true) rest
      simpa [Production.Found, readValue, word, lbracket, lbrace, quote] using rest_read
  | @false bs rest word =>
      obtain ⟨k, rfl, -⟩ := fuel_succ word enough
      have rest_read := readWord_self [0x61, 0x6C, 0x73, 0x65] (.bool .false) rest
      simpa [Production.Found, readValue, word, lbracket, lbrace, quote] using rest_read
  | @number bs rest d digits =>
      obtain ⟨c, r, found⟩ := exists_head_of_number digits
      obtain ⟨k, rfl, -⟩ := fuel_succ found enough
      rw [found] at digits
      obtain ⟨h₁, h₂, h₃, h₄, h₅, h₆⟩ := readNumber_opens digits
      simp [Production.Found, readValue, found, h₁, h₂, h₃, h₄, h₅, h₆, digits]
  | string opened closed =>
      obtain ⟨k, rfl, -⟩ := fuel_succ opened enough
      simp [Production.Found, readValue, opened, closed, lbracket, lbrace, quote]
  | emptyArray opened closed =>
      obtain ⟨k, rfl, -⟩ := fuel_succ opened enough
      simp [Production.Found, readValue, opened, closed]
  | array opened first others foundFirst foundOthers =>
      obtain ⟨k, rfl, fits⟩ := fuel_succ opened enough
      obtain ⟨c, r, head, notClosing⟩ := first.value_head
      have value := foundFirst k fits
      have elements := foundOthers k (first.shrinks.le.trans fits)
      simp only [Production.Found] at value elements
      simp [Production.Found, readValue, opened, head, notClosing, value, elements]
  | emptyObject opened closed =>
      obtain ⟨k, rfl, -⟩ := fuel_succ opened enough
      simp [Production.Found, readValue, opened, closed, lbracket, lbrace]
  | object opened first others foundFirst foundOthers =>
      obtain ⟨k, rfl, fits⟩ := fuel_succ opened enough
      have member := foundFirst k fits
      have members := foundOthers k (first.shrinks.le.trans fits)
      simp only [Production.Found] at member members
      cases first with
      | member head _ _ _ =>
          simp [Production.Found, readValue, opened, head, member, members, lbracket, lbrace,
            quote, rbrace]
  | lastElement closed =>
      obtain ⟨k, rfl, -⟩ := fuel_succ closed enough
      simp [Production.Found, readElements, closed]
  | nextElement separated next others foundNext foundOthers =>
      obtain ⟨k, rfl, fits⟩ := fuel_succ separated enough
      have value := foundNext k fits
      have elements := foundOthers k (next.shrinks.le.trans fits)
      simp only [Production.Found] at value elements
      simp [Production.Found, readElements, separated, value, elements, comma, rbracket]
  | @member bs r r₁ r₂ rest key v opened named separated held foundHeld =>
      obtain ⟨k, rfl, fits⟩ := fuel_succ opened enough
      have inside := (readString_append named []).2
      have behind := skipWs_cons_length separated
      have value := foundHeld k (by omega)
      simp only [Production.Found] at value
      simp [Production.Found, readMember, opened, named, separated, value]
  | lastMember closed =>
      obtain ⟨k, rfl, -⟩ := fuel_succ closed enough
      simp [Production.Found, readMembers, closed]
  | nextMember separated next others foundNext foundOthers =>
      obtain ⟨k, rfl, fits⟩ := fuel_succ separated enough
      have member := foundNext k fits
      have members := foundOthers k (next.shrinks.le.trans fits)
      simp only [Production.Found] at member members
      simp [Production.Found, readMembers, separated, member, members, comma, rbrace]

/-! ## Texts and the values they denote -/

/-- The text is one value with white space around it. -/
def Denotes (text : Bytes) (v : Json) : Prop := ∃ rest, Reads text (.value v) rest ∧ skipWs rest = []

/-- **The reader returns what the text denotes.** -/
theorem parse_of_denotes {text : Bytes} {v : Json} (denotes : Denotes text v) :
    parse text = some v := by
  obtain ⟨rest, reads, blank⟩ := denotes
  have found := read_complete reads text.length le_rfl
  simp only [Production.Found] at found
  rw [parse, found]
  exact if_pos blank

theorem Denotes.unique {text : Bytes} {v w : Json} (first : Denotes text v)
    (second : Denotes text w) : v = w := by
  have same := (parse_of_denotes first).symm.trans (parse_of_denotes second)
  exact Option.some.inj same

end IsgConsole.Theory.Json
