/-
# Theory.Json.Print — writing JSON texts

`toJson` writes a document compactly or indented by four spaces a level, escaping in
strings what has to be escaped.

* `print_reads` — what is written for a value reads as that value, in front of any byte
  that does not continue a number.
* `parse_toJson` — **reading undoes writing**, in both formats.
* `toJson_ascii` — a value of ASCII strings is written in ASCII.
-/
import IsgConsole.Theory.Json.Parse
import Mathlib.Data.Nat.Digits.Lemmas

namespace IsgConsole.Theory.Json

set_option autoImplicit false

/-! ## Numbers -/

def digit (n : Nat) : UInt8 := UInt8.ofNat (48 + n)

def natDigits (n : Nat) : Bytes :=
  if n = 0 then [digit 0] else (Nat.digits 10 n).reverse.map digit

/-- The last `s` decimal digits. -/
def padDigits : Nat → Nat → Bytes
  | 0, _ => []
  | s + 1, n => padDigits s (n / 10) ++ [digit (n % 10)]

def printNumber (d : Decimal) : Bytes :=
  (if d.mantissa < 0 then [minus] else []) ++
    if d.scale = 0 then natDigits d.mantissa.natAbs
    else natDigits (d.mantissa.natAbs / 10 ^ d.scale) ++
      point :: padDigits d.scale d.mantissa.natAbs

/-- An `int` in decimal. -/
def printInt (n : Int) : Bytes := printNumber (Decimal.ofInt n)

theorem digit_facts : ∀ n, n < 10 → isDigit (digit n) ∧ (digit n).toNat - 48 = n := by decide

theorem ofDigits_snoc (ds : Bytes) {n : Nat} (small : n < 10) :
    ofDigits (ds ++ [digit n]) = 10 * ofDigits ds + n := by
  rw [ofDigits, List.foldl_append]
  show 10 * ofDigits ds + ((digit n).toNat - 48) = _
  rw [(digit_facts n small).2]

theorem ofDigits_natDigits (n : Nat) : ofDigits (natDigits n) = n := by
  by_cases zero : n = 0
  · subst zero
    decide
  · have digits : ∀ ds : List Nat, (∀ d ∈ ds, d < 10) →
        ofDigits (ds.reverse.map digit) = Nat.ofDigits 10 ds := by
      intro ds small
      induction ds with
      | nil => rfl
      | cons d ds ih =>
          have later := ih fun d' mem => small d' (List.mem_cons_of_mem _ mem)
          rw [List.reverse_cons, List.map_append, List.map_singleton,
            ofDigits_snoc _ (small d List.mem_cons_self), later, Nat.ofDigits_cons]
          omega
    rw [natDigits, if_neg zero, digits _ fun d mem => Nat.digits_lt_base (by decide) mem,
      Nat.ofDigits_digits]

theorem natDigits_digits (n : Nat) : ∀ b ∈ natDigits n, isDigit b := by
  intro b mem
  rw [natDigits] at mem
  split at mem
  · rw [List.mem_singleton.mp mem]
    decide
  · obtain ⟨d, there, rfl⟩ := List.mem_map.mp mem
    exact (digit_facts d (Nat.digits_lt_base (by decide) (List.mem_reverse.mp there))).1

theorem natDigits_intPart (n : Nat) : isIntPart (natDigits n) := by
  by_cases zero : n = 0
  · subst zero
    decide
  · have some_digit : Nat.digits 10 n ≠ [] := Nat.digits_ne_nil_iff_ne_zero.mpr zero
    have top := Nat.getLast_digit_ne_zero 10 zero
    have small : (Nat.digits 10 n).getLast some_digit < 10 :=
      Nat.digits_lt_base (by decide) (List.getLast_mem some_digit)
    have head : (natDigits n).head? = some (digit ((Nat.digits 10 n).getLast some_digit)) := by
      rw [natDigits, if_neg zero, List.head?_map, List.head?_reverse,
        List.getLast?_eq_some_getLast some_digit]
      rfl
    have nonzero : ∀ d, d < 10 → d ≠ 0 → digit d ≠ 0x30 := by decide
    have nonempty : natDigits n ≠ [] := by
      intro empty
      rw [empty] at head
      cases head
    simp [isIntPart, nonempty, head, nonzero _ small top]

theorem padDigits_digits (s n : Nat) : ∀ b ∈ padDigits s n, isDigit b := by
  induction s generalizing n with
  | zero => simp [padDigits]
  | succ s ih =>
      intro b mem
      rcases List.mem_append.mp mem with left | right
      · exact ih _ b left
      · rw [List.mem_singleton.mp right]
        exact (digit_facts _ (Nat.mod_lt _ (by decide))).1

@[simp] theorem padDigits_length (s n : Nat) : (padDigits s n).length = s := by
  induction s generalizing n with
  | zero => rfl
  | succ s ih => simp [padDigits, ih]

theorem ofDigits_padDigits (ds : Bytes) (s n : Nat) :
    ofDigits (ds ++ padDigits s n) = ofDigits ds * 10 ^ s + n % 10 ^ s := by
  induction s generalizing n with
  | zero => simp [padDigits, Nat.mod_one]
  | succ s ih =>
      rw [padDigits, ← List.append_assoc, ofDigits_snoc _ (Nat.mod_lt _ (by decide)), ih,
        Nat.pow_succ', Nat.mod_mul]
      ring

/-- The byte behind a number does not continue it. -/
def Stops : Bytes → Prop
  | [] => True
  | c :: _ => ¬ isDigit c ∧ c ≠ point ∧ c ≠ 0x65 ∧ c ≠ 0x45

/-- A run of digits ends where something else follows. -/
theorem span_digits {ds rest : Bytes} (digits : ∀ b ∈ ds, isDigit b)
    (ends : ∀ c r, rest = c :: r → ¬ isDigit c) :
    (ds ++ rest).takeWhile isDigit = ds ∧ (ds ++ rest).dropWhile isDigit = rest := by
  induction ds with
  | nil =>
      cases rest with
      | nil => exact ⟨rfl, rfl⟩
      | cons c r => simp [ends c r rfl]
  | cons b ds ih =>
      obtain ⟨taken, dropped⟩ := ih fun b' mem => digits b' (List.mem_cons_of_mem _ mem)
      have head := digits b List.mem_cons_self
      simp [head, taken, dropped]

theorem readExp_stops {rest : Bytes} (stops : Stops rest) : readExp rest = some (0, rest) := by
  cases rest with
  | nil => rfl
  | cons c r =>
      obtain ⟨-, -, small, large⟩ := stops
      rw [readExp, if_neg (not_or.mpr ⟨small, large⟩)]

theorem readSign_natDigits (negative : Bool) (n : Nat) (rest : Bytes) :
    readSign ((if negative then [minus] else []) ++ (natDigits n ++ rest)) =
      (negative, natDigits n ++ rest) := by
  cases negative with
  | true => rfl
  | false =>
      cases spelled : natDigits n with
      | nil =>
          have whole := natDigits_intPart n
          rw [spelled] at whole
          cases whole
      | cons b bs =>
          have head := natDigits_digits n b (by rw [spelled]; exact List.mem_cons_self)
          have notMinus : b ≠ minus := by
            rintro rfl
            cases head
          simp [readSign, notMinus]

/-- What may follow a value is no digit .. -/
theorem Stops.noDigit {rest : Bytes} (stops : Stops rest) :
    ∀ c r, rest = c :: r → ¬ isDigit c := by
  rintro c r rfl
  exact stops.1

/-- .. and no fraction. -/
theorem readFrac_stops {rest : Bytes} (stops : Stops rest) : readFrac rest = some ([], rest) := by
  cases rest with
  | nil => rfl
  | cons c r => rw [readFrac, if_neg stops.2.1]

theorem readFrac_padDigits {scale : Nat} (some_digit : scale ≠ 0) (n : Nat) {rest : Bytes}
    (stops : Stops rest) :
    readFrac (point :: (padDigits scale n ++ rest)) = some (padDigits scale n, rest) := by
  obtain ⟨taken, dropped⟩ := span_digits (padDigits_digits scale n) stops.noDigit
  have nonempty : padDigits scale n ≠ [] := by
    intro empty
    have length := padDigits_length scale n
    rw [empty] at length
    exact some_digit length.symm
  rw [readFrac, if_pos rfl, taken, dropped, if_neg nonempty]

/-- A sign and an absolute value. -/
theorem signed_natAbs (n : Int) :
    (if decide (n < 0) then -(n.natAbs : Int) else n.natAbs) = n := by
  split
  next negative =>
      have below := of_decide_eq_true negative
      omega
  next positive =>
      have above := of_decide_eq_false (Bool.eq_false_iff.mpr positive)
      omega

theorem readNumber_print (d : Decimal) {rest : Bytes} (stops : Stops rest) :
    readNumber (printNumber d ++ rest) = some (d, rest) := by
  have same := Decimal.ofExponent_self d
  by_cases whole : d.scale = 0
  · have text : printNumber d ++ rest = (if decide (d.mantissa < 0) then [minus] else []) ++
        (natDigits d.mantissa.natAbs ++ rest) := by
      simp [printNumber, whole]
    obtain ⟨taken, dropped⟩ := span_digits (natDigits_digits d.mantissa.natAbs) stops.noDigit
    rw [whole] at same
    simp only [readNumber, text, readSign_natDigits, taken, dropped, natDigits_intPart, if_true,
      readFrac_stops stops, readExp_stops stops, List.append_nil, ofDigits_natDigits,
      signed_natAbs]
    simpa using same
  · have text : printNumber d ++ rest = (if decide (d.mantissa < 0) then [minus] else []) ++
        (natDigits (d.mantissa.natAbs / 10 ^ d.scale) ++
          (point :: (padDigits d.scale d.mantissa.natAbs ++ rest))) := by
      simp [printNumber, whole]
    have ends : ∀ c r, point :: (padDigits d.scale d.mantissa.natAbs ++ rest) = c :: r →
        ¬ isDigit c := by
      rintro c r ⟨⟩
      decide
    obtain ⟨taken, dropped⟩ :=
      span_digits (natDigits_digits (d.mantissa.natAbs / 10 ^ d.scale)) ends
    have value : ofDigits (natDigits (d.mantissa.natAbs / 10 ^ d.scale) ++
        padDigits d.scale d.mantissa.natAbs) = d.mantissa.natAbs := by
      rw [ofDigits_padDigits, ofDigits_natDigits, Nat.div_add_mod']
    simp only [readNumber, text, readSign_natDigits, taken, dropped, natDigits_intPart, if_true,
      readFrac_padDigits whole _ stops, readExp_stops stops, value, signed_natAbs,
      padDigits_length, zero_sub, same]

/-! ## Strings -/

def hexChar (n : Nat) : UInt8 := if n < 10 then UInt8.ofNat (48 + n) else UInt8.ofNat (87 + n)

/-- A byte as it stands in a string. -/
def escape (b : UInt8) : Bytes :=
  if b = quote then [backslash, quote]
  else if b = backslash then [backslash, backslash]
  else if b = 0x08 then [backslash, 0x62]
  else if b = 0x0C then [backslash, 0x66]
  else if b = 0x0A then [backslash, 0x6E]
  else if b = 0x0D then [backslash, 0x72]
  else if b = 0x09 then [backslash, 0x74]
  else if b < 0x20 then
    [backslash, 0x75, 0x30, 0x30, hexChar (b.toNat / 16), hexChar (b.toNat % 16)]
  else [b]

def printString (s : Bytes) : Bytes := quote :: (s.flatMap escape ++ [quote])

/-- The piece an escaped byte is read as. -/
def piece (b : UInt8) : Piece :=
  if (escape b).length = 6 then .unit b.toNat else .byte b

/-- The bytes that are escaped, and the others. -/
theorem escape_cases (b : UInt8) :
    (escape b = [b] ∧ b ≠ quote ∧ b ≠ backslash ∧ ¬ b < 0x20) ∨
    (∃ e, escape b = [backslash, e] ∧ e ≠ 0x75 ∧ unescape e = some b) ∨
    (∃ h l, escape b = [backslash, 0x75, 0x30, 0x30, h, l] ∧ hex4 0x30 0x30 h l = some b.toNat ∧
      b.toNat < 0x20) := by
  by_cases control : b < 0x20
  · have small : b.toNat < 32 := UInt8.lt_iff_toNat_lt.mp control
    have controls : ∀ n, n < 32 →
        (∃ e, escape (UInt8.ofNat n) = [backslash, e] ∧ e ≠ 0x75 ∧
          unescape e = some (UInt8.ofNat n)) ∨
        (∃ h l, escape (UInt8.ofNat n) = [backslash, 0x75, 0x30, 0x30, h, l] ∧
          hex4 0x30 0x30 h l = some n) := by
      intro n bound
      interval_cases n
      case «8» => exact .inl ⟨0x62, by decide⟩
      case «9» => exact .inl ⟨0x74, by decide⟩
      case «10» => exact .inl ⟨0x6E, by decide⟩
      case «12» => exact .inl ⟨0x66, by decide⟩
      case «13» => exact .inl ⟨0x72, by decide⟩
      all_goals exact .inr ⟨_, _, rfl, by decide⟩
    have shown := controls b.toNat small
    rw [UInt8.ofNat_toNat] at shown
    rcases shown with letter | ⟨h, l, text, value⟩
    · exact .inr (.inl letter)
    · exact .inr (.inr ⟨h, l, text, value, small⟩)
  · by_cases isQuote : b = quote
    · subst isQuote
      exact .inr (.inl ⟨quote, by decide⟩)
    · by_cases isBackslash : b = backslash
      · subst isBackslash
        exact .inr (.inl ⟨backslash, by decide⟩)
      · refine .inl ⟨?_, isQuote, isBackslash, control⟩
        have others : b ≠ 0x08 ∧ b ≠ 0x0C ∧ b ≠ 0x0A ∧ b ≠ 0x0D ∧ b ≠ 0x09 := by
          refine ⟨?_, ?_, ?_, ?_, ?_⟩ <;>
            · rintro rfl
              exact control (by decide)
        obtain ⟨h₁, h₂, h₃, h₄, h₅⟩ := others
        simp [escape, isQuote, isBackslash, h₁, h₂, h₃, h₄, h₅, control]

theorem readPieces_escape (b : UInt8) (bs : Bytes) :
    readPieces (escape b ++ bs) =
      (readPieces bs).map fun (ps, rest) => (piece b :: ps, rest) := by
  rcases escape_cases b with ⟨text, notQuote, notEscape, notControl⟩ | ⟨e, text, notUnit, letter⟩ |
      ⟨h, l, text, value, -⟩
  · have same : piece b = .byte b := by simp [piece, text]
    rw [text, same, List.singleton_append]
    rw [readPieces.eq_def]
    simp only [if_neg notQuote, if_neg notEscape, if_neg notControl]
    cases readPieces bs <;> rfl
  · have same : piece b = .byte b := by simp [piece, text]
    rw [text, same, List.cons_append, List.singleton_append, readPieces.eq_def]
    simp only [show ¬ backslash = quote by decide, if_false, if_true, if_neg notUnit, letter]
    cases readPieces bs <;> rfl
  · have same : piece b = .unit b.toNat := by simp [piece, text]
    rw [text, same]
    simp only [List.cons_append, List.nil_append]
    rw [readPieces.eq_def]
    simp only [show ¬ backslash = quote by decide, if_false, if_true, value]
    cases readPieces bs <;> rfl

theorem join_piece (b : UInt8) (ps : List Piece) : join (piece b :: ps) = b :: join ps := by
  rcases escape_cases b with ⟨text, -⟩ | ⟨e, text, -⟩ | ⟨h, l, text, -, small⟩
  · have same : piece b = .byte b := by simp [piece, text]
    rw [same, join]
  · have same : piece b = .byte b := by simp [piece, text]
    rw [same, join]
  · have same : piece b = .unit b.toNat := by simp [piece, text]
    have point : encodePoint b.toNat = [b] := by
      rw [encodePoint, if_pos (by omega), UInt8.ofNat_toNat]
    rw [same]
    match ps with
    | [] => simp [join, point]
    | .byte c :: ps => simp [join, point]
    | .unit lo :: ps =>
        have single : ¬ (0xD800 ≤ b.toNat ∧ b.toNat < 0xDC00 ∧ 0xDC00 ≤ lo ∧ lo < 0xE000) := by
          omega
        rw [join, if_neg single, point]
        rfl

theorem readPieces_print (s rest : Bytes) :
    readPieces (s.flatMap escape ++ quote :: rest) = some (s.map piece, rest) := by
  induction s with
  | nil =>
      rw [List.flatMap_nil, List.nil_append, readPieces.eq_def]
      simp
  | cons b s ih =>
      rw [List.flatMap_cons, List.append_assoc, readPieces_escape, ih]
      rfl

theorem join_map_piece (s : Bytes) : join (s.map piece) = s := by
  induction s with
  | nil => rfl
  | cons b s ih => rw [List.map_cons, join_piece, ih]

theorem readString_print (s rest : Bytes) :
    readString (s.flatMap escape ++ quote :: rest) = some (s, rest) := by
  have joined := join_map_piece s
  have pieces := readPieces_print s rest
  rw [readString, pieces, Option.map_some]
  simp only [joined]

/-! ## Values -/

/-- The two formats; an indented value knows how deep it stands. -/
inductive Layout where
  | compact
  | indented (level : Nat)

namespace Layout

def deeper : Layout → Layout
  | compact => compact
  | indented level => indented (level + 1)

/-- The line break in front of an element or a closing bracket. -/
def newline : Layout → Bytes
  | compact => []
  | indented level => 0x0A :: List.replicate (4 * level) 0x20

/-- The white space behind a colon. -/
def space : Layout → Bytes
  | compact => []
  | indented _ => [0x20]

theorem newline_blank (layout : Layout) : ∀ b ∈ layout.newline, isWs b := by
  cases layout with
  | compact => simp [newline]
  | indented level =>
      intro b mem
      rcases List.mem_cons.mp mem with rfl | spaces
      · decide
      · rw [List.eq_of_mem_replicate spaces]
        decide

theorem space_blank (layout : Layout) : ∀ b ∈ layout.space, isWs b := by
  cases layout with
  | compact => simp [space]
  | indented level => simp [space, isWs]

end Layout

mutual

def print (layout : Layout) : Json → Bytes
  | .null => [0x6E, 0x75, 0x6C, 0x6C]
  | .bool true => [0x74, 0x72, 0x75, 0x65]
  | .bool false => [0x66, 0x61, 0x6C, 0x73, 0x65]
  | .number d => printNumber d
  | .string s => printString s
  | .array vs => lbracket :: printArray layout vs
  | .object ms => lbrace :: printObject layout ms

/-- An array behind its bracket. -/
def printArray (layout : Layout) : List Json → Bytes
  | [] => layout.newline ++ [rbracket]
  | v :: vs => layout.deeper.newline ++ print layout.deeper v ++ printElements layout vs

/-- The elements behind the first one. -/
def printElements (layout : Layout) : List Json → Bytes
  | [] => layout.newline ++ [rbracket]
  | v :: vs => comma :: (layout.deeper.newline ++ print layout.deeper v ++ printElements layout vs)

/-- An object behind its brace. -/
def printObject (layout : Layout) : List (Bytes × Json) → Bytes
  | [] => layout.newline ++ [rbrace]
  | (key, v) :: ms =>
      layout.deeper.newline ++ printString key ++ colon :: layout.space ++
        print layout.deeper v ++ printMembers layout ms

/-- The members behind the first one. -/
def printMembers (layout : Layout) : List (Bytes × Json) → Bytes
  | [] => layout.newline ++ [rbrace]
  | (key, v) :: ms =>
      comma :: (layout.deeper.newline ++ printString key ++ colon :: layout.space ++
        print layout.deeper v ++ printMembers layout ms)

end

/-! ## What is written reads as what it was written for -/

/-- White space in front is skipped. -/
theorem skipWs_blank {ws : Bytes} (blank : ∀ b ∈ ws, isWs b) (bs : Bytes) :
    skipWs (ws ++ bs) = skipWs bs := by
  induction ws with
  | nil => rfl
  | cons b ws ih =>
      have rest := ih fun b later => blank b (List.mem_cons_of_mem _ later)
      have head := blank b List.mem_cons_self
      rw [List.cons_append, skipWs, List.dropWhile_cons, if_pos head]
      exact rest

theorem skipWs_cons {c : UInt8} (ink : ¬ isWs c) (bs : Bytes) : skipWs (c :: bs) = c :: bs := by
  rw [skipWs, List.dropWhile_cons, if_neg ink]

theorem Reads.blank {ws bs rest : Bytes} {p : Production} (reads : Reads bs p rest)
    (blank : ∀ b ∈ ws, isWs b) : Reads (ws ++ bs) p rest := by
  have same := skipWs_blank blank bs
  cases reads with
  | null word => exact .null (same.trans word)
  | true word => exact .true (same.trans word)
  | false word => exact .false (same.trans word)
  | number digits => exact .number (by rw [same]; exact digits)
  | string opened closed => exact .string (same.trans opened) closed
  | emptyArray opened closed => exact .emptyArray (same.trans opened) closed
  | array opened first others => exact .array (same.trans opened) first others
  | emptyObject opened closed => exact .emptyObject (same.trans opened) closed
  | object opened first others => exact .object (same.trans opened) first others
  | lastElement closed => exact .lastElement (same.trans closed)
  | nextElement separated next others => exact .nextElement (same.trans separated) next others
  | member opened named separated held => exact .member (same.trans opened) named separated held
  | lastMember closed => exact .lastMember (same.trans closed)
  | nextMember separated next others => exact .nextMember (same.trans separated) next others

/-- A line break or a punctuation byte stops a number. -/
theorem stops_newline (layout : Layout) {c : UInt8} (bs : Bytes) (stop : Stops [c]) :
    Stops (layout.newline ++ c :: bs) := by
  cases layout with
  | compact => exact stop
  | indented level => exact ⟨by decide, by decide, by decide, by decide⟩

theorem stops_elements (layout : Layout) (vs : List Json) (rest : Bytes) :
    Stops (printElements layout vs ++ rest) := by
  cases vs with
  | nil =>
      rw [printElements, List.append_assoc]
      exact stops_newline layout rest ⟨by decide, by decide, by decide, by decide⟩
  | cons v vs => exact ⟨by decide, by decide, by decide, by decide⟩

theorem stops_members (layout : Layout) (ms : List (Bytes × Json)) (rest : Bytes) :
    Stops (printMembers layout ms ++ rest) := by
  cases ms with
  | nil =>
      rw [printMembers, List.append_assoc]
      exact stops_newline layout rest ⟨by decide, by decide, by decide, by decide⟩
  | cons m ms =>
      obtain ⟨key, v⟩ := m
      exact ⟨by decide, by decide, by decide, by decide⟩

/-- A member whose value reads. -/
theorem member_reads (layout : Layout) (key : Bytes) {v : Json} {text rest : Bytes}
    (value : Reads text (.value v) rest) :
    Reads (layout.deeper.newline ++ (printString key ++ colon :: (layout.space ++ text)))
      (.member key v) rest := by
  refine Reads.blank ?_ layout.deeper.newline_blank
  have named := readString_print key (colon :: (layout.space ++ text))
  refine .member (r := key.flatMap escape ++ quote :: (colon :: (layout.space ++ text)))
    ?_ named (skipWs_cons (by decide) _) (value.blank layout.space_blank)
  rw [printString, List.cons_append, List.append_assoc, skipWs_cons (by decide)]
  rfl

/-- A number has no white space in front. -/
theorem skipWs_number {bs rest : Bytes} {d : Decimal} (read : readNumber bs = some (d, rest)) :
    skipWs bs = bs := by
  cases bs with
  | nil => rfl
  | cons c r =>
      refine skipWs_cons ?_ r
      intro blank
      simp only [isWs, decide_eq_true_eq] at blank
      rcases blank with rfl | rfl | rfl | rfl <;>
        exact absurd (readNumber_head read) (by decide)

/-- A line break and a closing bracket. -/
theorem skipWs_newline (layout : Layout) {c : UInt8} (ink : ¬ isWs c) (rest : Bytes) :
    skipWs (layout.newline ++ [c] ++ rest) = c :: rest := by
  rw [List.append_assoc, skipWs_blank layout.newline_blank]
  exact skipWs_cons ink rest

mutual

/-- **A printed value reads as itself**, wherever a number would be stopped. -/
theorem print_reads (layout : Layout) : ∀ (v : Json) (rest : Bytes), Stops rest →
    Reads (print layout v ++ rest) (.value v) rest
  | .null, rest, _ => .null (skipWs_cons (by decide) _)
  | .bool true, rest, _ => .true (skipWs_cons (by decide) _)
  | .bool false, rest, _ => .false (skipWs_cons (by decide) _)
  | .number d, rest, stops => by
      have read := readNumber_print d stops
      refine .number ?_
      rw [print, skipWs_number read]
      exact read
  | .string s, rest, _ => by
      refine .string (r := s.flatMap escape ++ quote :: rest) ?_ (readString_print s rest)
      rw [print, printString, List.cons_append, List.append_assoc, skipWs_cons (by decide)]
      rfl
  | .array [], rest, _ => by
      refine .emptyArray (skipWs_cons (by decide) _) ?_
      exact skipWs_newline layout (by decide) rest
  | .array (v :: vs), rest, _ => by
      have others := printElements_reads layout vs rest
      have first := print_reads layout.deeper v _ (stops_elements layout vs rest)
      have placed := first.blank layout.deeper.newline_blank
      rw [← List.append_assoc, ← List.append_assoc] at placed
      exact .array (skipWs_cons (by decide) _) placed others
  | .object [], rest, _ => by
      refine .emptyObject (skipWs_cons (by decide) _) ?_
      exact skipWs_newline layout (by decide) rest
  | .object ((key, v) :: ms), rest, _ => by
      have others := printMembers_reads layout ms rest
      have value := print_reads layout.deeper v _ (stops_members layout ms rest)
      refine .object (skipWs_cons (by decide) _) ?_ others
      simpa [printObject] using member_reads layout key value

theorem printElements_reads (layout : Layout) : ∀ (vs : List Json) (rest : Bytes),
    Reads (printElements layout vs ++ rest) (.elements vs) rest
  | [], rest => .lastElement (skipWs_newline layout (by decide) rest)
  | v :: vs, rest => by
      have others := printElements_reads layout vs rest
      have next := print_reads layout.deeper v _ (stops_elements layout vs rest)
      have placed := next.blank layout.deeper.newline_blank
      rw [← List.append_assoc, ← List.append_assoc] at placed
      exact .nextElement (skipWs_cons (by decide) _) placed others

theorem printMembers_reads (layout : Layout) : ∀ (ms : List (Bytes × Json)) (rest : Bytes),
    Reads (printMembers layout ms ++ rest) (.members ms) rest
  | [], rest => .lastMember (skipWs_newline layout (by decide) rest)
  | (key, v) :: ms, rest => by
      have others := printMembers_reads layout ms rest
      have value := print_reads layout.deeper v _ (stops_members layout ms rest)
      refine .nextMember (r := layout.deeper.newline ++ (printString key ++ colon ::
        (layout.space ++ (print layout.deeper v ++ (printMembers layout ms ++ rest)))))
        ?_ (member_reads layout key value) others
      rw [printMembers, List.cons_append, skipWs_cons (by decide)]
      simp

end

/-! ## Documents -/

/-- `QJsonDocument::JsonFormat`. -/
inductive Format where
  | Indented | Compact
  deriving DecidableEq

/-- `QJsonDocument::toJson`. -/
def toJson : Format → Json → Bytes
  | .Compact, v => print .compact v
  | .Indented, v => print (.indented 0) v ++ [0x0A]

/-- `QJsonDocument::fromJson`: only an array or an object is a document. -/
def fromJson (text : Bytes) : Option Json := (parse text).filter isDocument

theorem toJson_denotes (format : Format) (v : Json) : Denotes (toJson format v) v := by
  cases format with
  | Compact =>
      refine ⟨[], ?_, rfl⟩
      have reads := print_reads .compact v [] trivial
      rw [List.append_nil] at reads
      exact reads
  | Indented =>
      exact ⟨[0x0A], print_reads (.indented 0) v [0x0A] (by simp [Stops, isDigit, point]), rfl⟩

/-- **Reading undoes writing**, in both formats. -/
theorem fromJson_toJson (format : Format) {v : Json} (document : v.isDocument) :
    fromJson (toJson format v) = some v := by
  rw [fromJson, parse_of_denotes (toJson_denotes format v), Option.filter_some, if_pos document]

theorem fromJson_bracket {rest : Bytes} {v : Json}
    (read : fromJson (lbracket :: rest) = some v) : ∃ vs, v = .array vs := by
  rw [fromJson, Option.filter_eq_some_iff] at read
  exact parse_bracket read.1

theorem toJson_bracket (format : Format) (vs : List Json) :
    ∃ rest, toJson format (.array vs) = lbracket :: rest := by
  cases format with
  | Compact => exact ⟨_, rfl⟩
  | Indented => exact ⟨_, rfl⟩

/-! ## ASCII values -/

/-- A text of bytes below 128. -/
def Ascii (bs : Bytes) : Prop := ∀ b ∈ bs, b < 0x80

instance (bs : Bytes) : Decidable (Ascii bs) := List.decidableBAll (fun b => b < 0x80) bs

theorem Ascii.append {bs cs : Bytes} (left : Ascii bs) (right : Ascii cs) : Ascii (bs ++ cs) := by
  intro b member
  rcases List.mem_append.mp member with first | second
  · exact left b first
  · exact right b second

theorem Ascii.cons {b : UInt8} {bs : Bytes} (head : b < 0x80) (tail : Ascii bs) :
    Ascii (b :: bs) := by
  intro c member
  rcases List.mem_cons.mp member with rfl | later
  · exact head
  · exact tail c later

/-- A value whose keys and strings are ASCII. -/
inductive AsciiValue : Json → Prop where
  | null : AsciiValue .null
  | bool (b : Bool) : AsciiValue (.bool b)
  | number (d : Decimal) : AsciiValue (.number d)
  | string {s : Bytes} (text : Ascii s) : AsciiValue (.string s)
  | array {vs : List Json} (elements : ∀ v ∈ vs, AsciiValue v) : AsciiValue (.array vs)
  | object {ms : JsonObject} (keys : ∀ m ∈ ms, Ascii m.1)
      (values : ∀ m ∈ ms, AsciiValue m.2) : AsciiValue (.object ms)

theorem AsciiValue.objectOf {members : List (Bytes × Json)} (keys : ∀ m ∈ members, Ascii m.1)
    (values : ∀ m ∈ members, AsciiValue m.2) : AsciiValue (.objectOf members) :=
  .object (fun m there => keys m (JsonObject.mem_ofInserts there))
    (fun m there => values m (JsonObject.mem_ofInserts there))

theorem digits_ascii {ds : Bytes} (digits : ∀ b ∈ ds, isDigit b) : Ascii ds := by
  intro b member
  have bounds := digits b member
  simp only [isDigit, decide_eq_true_eq] at bounds
  exact UInt8.lt_of_le_of_lt bounds.2 (by decide)

theorem printNumber_ascii (d : Decimal) : Ascii (printNumber d) := by
  refine Ascii.append ?_ ?_
  · split
    · exact Ascii.cons (by decide) (by simp [Ascii])
    · simp [Ascii]
  · split
    · exact digits_ascii (natDigits_digits _)
    · exact (digits_ascii (natDigits_digits _)).append
        (Ascii.cons (by decide) (digits_ascii (padDigits_digits _ _)))

theorem escape_ascii {b : UInt8} (ascii : b < 0x80) : Ascii (escape b) := by
  have all : ∀ n, n < 128 → Ascii (escape (UInt8.ofNat n)) := by decide
  have this := all b.toNat (UInt8.lt_iff_toNat_lt.mp ascii)
  rw [UInt8.ofNat_toNat] at this
  exact this

theorem printString_ascii {s : Bytes} (ascii : Ascii s) : Ascii (printString s) := by
  refine Ascii.cons (by decide) (Ascii.append ?_ (Ascii.cons (by decide) (by simp [Ascii])))
  intro c member
  obtain ⟨b, there, escaped⟩ := List.mem_flatMap.mp member
  exact escape_ascii (ascii b there) c escaped

theorem newline_ascii (layout : Layout) : Ascii layout.newline := by
  cases layout with
  | compact => simp [Layout.newline, Ascii]
  | indented level =>
      refine Ascii.cons (by decide) ?_
      intro b member
      rw [List.eq_of_mem_replicate member]
      decide

theorem space_ascii (layout : Layout) : Ascii layout.space := by
  cases layout with
  | compact => simp [Layout.space, Ascii]
  | indented level => exact Ascii.cons (by decide) (by simp [Ascii])

/-- A line break and a closing bracket. -/
theorem close_ascii (layout : Layout) {c : UInt8} (ascii : c < 0x80) :
    Ascii (layout.newline ++ [c]) :=
  (newline_ascii layout).append (Ascii.cons ascii (by simp [Ascii]))

mutual

theorem print_ascii (layout : Layout) : ∀ {v : Json}, AsciiValue v → Ascii (print layout v)
  | .null, _ => by simp [print, Ascii]
  | .bool true, _ => by simp [print, Ascii]
  | .bool false, _ => by simp [print, Ascii]
  | .number d, _ => printNumber_ascii d
  | .string s, .string text => printString_ascii text
  | .array [], _ => Ascii.cons (by decide) (close_ascii layout (by decide))
  | .array (v :: vs), .array elements => by
      have first := print_ascii layout.deeper (elements v List.mem_cons_self)
      have others := printElements_ascii layout fun w later =>
        elements w (List.mem_cons_of_mem _ later)
      exact Ascii.cons (by decide) (((newline_ascii _).append first).append others)
  | .object [], _ => Ascii.cons (by decide) (close_ascii layout (by decide))
  | .object ((key, v) :: ms), .object keys values => by
      have name := printString_ascii (keys (key, v) List.mem_cons_self)
      have first := print_ascii layout.deeper (values (key, v) List.mem_cons_self)
      have others := printMembers_ascii layout
        (fun m later => keys m (List.mem_cons_of_mem _ later))
        fun m later => values m (List.mem_cons_of_mem _ later)
      have separator := Ascii.cons (b := colon) (by decide) (space_ascii layout)
      exact Ascii.cons (by decide)
        (((((newline_ascii _).append name).append separator).append first).append others)

theorem printElements_ascii (layout : Layout) : ∀ {vs : List Json}, (∀ v ∈ vs, AsciiValue v) →
    Ascii (printElements layout vs)
  | [], _ => close_ascii layout (by decide)
  | v :: vs, elements => by
      have next := print_ascii layout.deeper (elements v List.mem_cons_self)
      have others := printElements_ascii layout fun w later =>
        elements w (List.mem_cons_of_mem _ later)
      exact Ascii.cons (by decide) (((newline_ascii _).append next).append others)

theorem printMembers_ascii (layout : Layout) : ∀ {ms : JsonObject}, (∀ m ∈ ms, Ascii m.1) →
    (∀ m ∈ ms, AsciiValue m.2) → Ascii (printMembers layout ms)
  | [], _, _ => close_ascii layout (by decide)
  | (key, v) :: ms, keys, values => by
      have name := printString_ascii (keys (key, v) List.mem_cons_self)
      have next := print_ascii layout.deeper (values (key, v) List.mem_cons_self)
      have others := printMembers_ascii layout
        (fun m later => keys m (List.mem_cons_of_mem _ later))
        fun m later => values m (List.mem_cons_of_mem _ later)
      have separator := Ascii.cons (b := colon) (by decide) (space_ascii layout)
      exact Ascii.cons (by decide)
        (((((newline_ascii _).append name).append separator).append next).append others)

end

/-- A value of ASCII strings is written in ASCII. -/
theorem toJson_ascii (format : Format) {v : Json} (ascii : AsciiValue v) :
    Ascii (toJson format v) := by
  cases format with
  | Compact => exact print_ascii .compact ascii
  | Indented => exact (print_ascii _ ascii).append (Ascii.cons (by decide) (by simp [Ascii]))

end IsgConsole.Theory.Json
