/-
# Theory.Json.Text — the grammar of JSON texts

RFC 8259 over bytes.  The lexical part (`skipWs`, `readNumber`, `readString`) is given by
functions; the syntactic part is the relation `Reads bs p rest`: the production `p` is
read off the front of `bs` and `rest` stays behind.

`Reads.shrinks` and `Reads.append` say that a production takes at least one byte, and
that it reads the same when more bytes follow, unless it is a number that more digits
would lengthen.
-/
import IsgConsole.Theory.Json.Value

namespace IsgConsole.Theory.Json

set_option autoImplicit false

/-! ## Bytes with a meaning -/

abbrev quote : UInt8 := 0x22
abbrev comma : UInt8 := 0x2C
abbrev minus : UInt8 := 0x2D
abbrev point : UInt8 := 0x2E
abbrev colon : UInt8 := 0x3A
abbrev lbracket : UInt8 := 0x5B
abbrev backslash : UInt8 := 0x5C
abbrev rbracket : UInt8 := 0x5D
abbrev lbrace : UInt8 := 0x7B
abbrev rbrace : UInt8 := 0x7D

def isWs (b : UInt8) : Bool := b = 0x20 ∨ b = 0x09 ∨ b = 0x0A ∨ b = 0x0D

def isDigit (b : UInt8) : Bool := 0x30 ≤ b ∧ b ≤ 0x39

def skipWs (bs : Bytes) : Bytes := bs.dropWhile isWs

/-- A run of bytes is cut off at the same place when more bytes follow what stopped it. -/
theorem span_append {p : UInt8 → Bool} {bs : Bytes} (stopped : bs.dropWhile p ≠ []) (more : Bytes) :
    (bs ++ more).takeWhile p = bs.takeWhile p ∧
      (bs ++ more).dropWhile p = bs.dropWhile p ++ more := by
  induction bs with
  | nil => exact absurd rfl stopped
  | cons b bs ih =>
      by_cases inside : p b
      · simp only [List.dropWhile_cons, inside, if_true] at stopped
        obtain ⟨taken, left⟩ := ih stopped
        simp only [List.cons_append, List.takeWhile_cons, List.dropWhile_cons, inside, if_true,
          taken, left, and_self]
      · simp [inside]

theorem skipWs_append {bs r : Bytes} {c : UInt8} (found : skipWs bs = c :: r) (more : Bytes) :
    skipWs (bs ++ more) = c :: (r ++ more) := by
  have stopped : bs.dropWhile isWs ≠ [] := by
    rw [show bs.dropWhile isWs = c :: r from found]
    exact List.cons_ne_nil _ _
  rw [skipWs, (span_append stopped more).2, show bs.dropWhile isWs = c :: r from found,
    List.cons_append]

theorem skipWs_length (bs : Bytes) : (skipWs bs).length ≤ bs.length :=
  (List.dropWhile_sublist isWs).length_le

/-! ## Numbers -/

/-- Digits, read as a natural. -/
def ofDigits (ds : Bytes) : Nat := ds.foldl (fun n d => 10 * n + (d.toNat - 48)) 0

/-- A digit run that may stand for an integer part: not empty, no superfluous zero. -/
def isIntPart (ds : Bytes) : Bool := ds ≠ [] ∧ (ds.length = 1 ∨ ds.head? ≠ some 0x30)

def readSign : Bytes → Bool × Bytes
  | [] => (false, [])
  | b :: bs => if b = minus then (true, bs) else (false, b :: bs)

/-- The digits behind a point, and what follows; nothing when there is no point. -/
def readFrac : Bytes → Option (Bytes × Bytes)
  | [] => some ([], [])
  | b :: bs =>
      if b = point then
        if bs.takeWhile isDigit = [] then none
        else some (bs.takeWhile isDigit, bs.dropWhile isDigit)
      else some ([], b :: bs)

/-- The sign of an exponent. -/
def readExpSign : Bytes → Bool × Bytes
  | [] => (false, [])
  | b :: bs =>
      if b = minus then (true, bs) else if b = 0x2B then (false, bs) else (false, b :: bs)

/-- The exponent, zero when there is none. -/
def readExp : Bytes → Option (Int × Bytes)
  | [] => some (0, [])
  | b :: bs =>
      if b = 0x65 ∨ b = 0x45 then
        let s := readExpSign bs
        if s.2.takeWhile isDigit = [] then none
        else
          let e : Int := ofDigits (s.2.takeWhile isDigit)
          some (if s.1 then -e else e, s.2.dropWhile isDigit)
      else some (0, b :: bs)

def readNumber (bs : Bytes) : Option (Decimal × Bytes) :=
  let s := readSign bs
  let whole := s.2.takeWhile isDigit
  if isIntPart whole then
    match readFrac (s.2.dropWhile isDigit) with
    | none => none
    | some (frac, r) =>
        match readExp r with
        | none => none
        | some (e, rest) =>
            let m : Int := ofDigits (whole ++ frac)
            some (Decimal.ofExponent (if s.1 then -m else m) (e - frac.length), rest)
  else none

/-! ## Strings -/

def hexDigit (b : UInt8) : Option Nat :=
  if 0x30 ≤ b ∧ b ≤ 0x39 then some (b.toNat - 48)
  else if 0x61 ≤ b ∧ b ≤ 0x66 then some (b.toNat - 87)
  else if 0x41 ≤ b ∧ b ≤ 0x46 then some (b.toNat - 55)
  else none

def hex4 (a b c d : UInt8) : Option Nat := do
  return (((← hexDigit a) * 16 + (← hexDigit b)) * 16 + (← hexDigit c)) * 16 + (← hexDigit d)

/-- The UTF-8 bytes of a code point. -/
def encodePoint (n : Nat) : Bytes :=
  if n < 0x80 then [UInt8.ofNat n]
  else if n < 0x800 then [UInt8.ofNat (0xC0 + n / 64), UInt8.ofNat (0x80 + n % 64)]
  else if n < 0x10000 then
    [UInt8.ofNat (0xE0 + n / 4096), UInt8.ofNat (0x80 + n / 64 % 64), UInt8.ofNat (0x80 + n % 64)]
  else
    [UInt8.ofNat (0xF0 + n / 262144), UInt8.ofNat (0x80 + n / 4096 % 64),
      UInt8.ofNat (0x80 + n / 64 % 64), UInt8.ofNat (0x80 + n % 64)]

/-- The byte a one-letter escape stands for. -/
def unescape (e : UInt8) : Option UInt8 :=
  if e = quote then some quote
  else if e = backslash then some backslash
  else if e = 0x2F then some 0x2F
  else if e = 0x62 then some 0x08
  else if e = 0x66 then some 0x0C
  else if e = 0x6E then some 0x0A
  else if e = 0x72 then some 0x0D
  else if e = 0x74 then some 0x09
  else none

/-- A byte of the string, or a code unit written with `\u`. -/
inductive Piece where
  | byte (b : UInt8)
  | unit (n : Nat)

/-- Code units in pairs of surrogates are one code point. -/
def join : List Piece → Bytes
  | [] => []
  | .byte b :: ps => b :: join ps
  | .unit hi :: .unit lo :: ps =>
      if 0xD800 ≤ hi ∧ hi < 0xDC00 ∧ 0xDC00 ≤ lo ∧ lo < 0xE000 then
        encodePoint (0x10000 + (hi - 0xD800) * 1024 + (lo - 0xDC00)) ++ join ps
      else encodePoint hi ++ join (.unit lo :: ps)
  | .unit n :: ps => encodePoint n ++ join ps

/-- The pieces up to the closing quote, and what follows it. -/
def readPieces : Bytes → Option (List Piece × Bytes)
  | [] => none
  | b :: bs =>
      if b = quote then some ([], bs)
      else if b = backslash then
        match bs with
        | [] => none
        | e :: bs =>
            if e = 0x75 then
              match bs with
              | h₁ :: h₂ :: h₃ :: h₄ :: bs =>
                  match hex4 h₁ h₂ h₃ h₄, readPieces bs with
                  | some n, some (ps, rest) => some (.unit n :: ps, rest)
                  | _, _ => none
              | _ => none
            else
              match unescape e, readPieces bs with
              | some c, some (ps, rest) => some (.byte c :: ps, rest)
              | _, _ => none
      else if b < 0x20 then none
      else
        match readPieces bs with
        | some (ps, rest) => some (.byte b :: ps, rest)
        | none => none

/-- A string behind its opening quote. -/
def readString (bs : Bytes) : Option (Bytes × Bytes) :=
  (readPieces bs).map fun (ps, rest) => (join ps, rest)

/-! ## Lexical productions and the bytes behind them -/

theorem readSign_append {bs : Bytes} (some_left : bs ≠ []) (more : Bytes) :
    readSign (bs ++ more) = ((readSign bs).1, (readSign bs).2 ++ more) := by
  cases bs with
  | nil => exact absurd rfl some_left
  | cons b bs =>
      simp only [readSign, List.cons_append]
      split <;> rfl

theorem readSign_length (bs : Bytes) : (readSign bs).2.length ≤ bs.length := by
  cases bs with
  | nil => exact Nat.le_refl _
  | cons b bs =>
      simp only [readSign]
      split
      · exact Nat.le_succ _
      · exact Nat.le_refl _

theorem readFrac_append {bs ds r : Bytes} (read : readFrac bs = some (ds, r)) (left : r ≠ [])
    (more : Bytes) : readFrac (bs ++ more) = some (ds, r ++ more) := by
  cases bs with
  | nil =>
      simp only [readFrac, Option.some.injEq, Prod.mk.injEq] at read
      exact absurd read.2.symm left
  | cons b bs =>
      simp only [readFrac, List.cons_append] at read ⊢
      by_cases pointed : b = point
      · rw [if_pos pointed] at read ⊢
        by_cases none_there : bs.takeWhile isDigit = []
        · rw [if_pos none_there] at read
          cases read
        · rw [if_neg none_there] at read
          simp only [Option.some.injEq, Prod.mk.injEq] at read
          obtain ⟨rfl, rfl⟩ := read
          obtain ⟨taken, dropped⟩ := span_append left more
          rw [taken, dropped, if_neg none_there]
      · rw [if_neg pointed] at read ⊢
        simp only [Option.some.injEq, Prod.mk.injEq] at read
        obtain ⟨rfl, rfl⟩ := read
        rfl

theorem readFrac_length {bs ds r : Bytes} (read : readFrac bs = some (ds, r)) :
    r.length ≤ bs.length := by
  cases bs with
  | nil =>
      simp only [readFrac, Option.some.injEq, Prod.mk.injEq] at read
      rw [← read.2]
  | cons b bs =>
      simp only [readFrac] at read
      split_ifs at read
      · simp only [Option.some.injEq, Prod.mk.injEq] at read
        rw [← read.2, List.length_cons]
        exact Nat.le_succ_of_le (List.dropWhile_sublist isDigit).length_le
      · simp only [Option.some.injEq, Prod.mk.injEq] at read
        rw [← read.2]

theorem readExpSign_append {bs : Bytes} (some_left : bs ≠ []) (more : Bytes) :
    readExpSign (bs ++ more) = ((readExpSign bs).1, (readExpSign bs).2 ++ more) := by
  cases bs with
  | nil => exact absurd rfl some_left
  | cons b bs =>
      simp only [readExpSign, List.cons_append]
      split_ifs <;> rfl

theorem readExpSign_length (bs : Bytes) : (readExpSign bs).2.length ≤ bs.length := by
  cases bs with
  | nil => exact Nat.le_refl _
  | cons b bs =>
      simp only [readExpSign]
      split_ifs <;> simp

theorem readExp_append {bs r : Bytes} {e : Int} (read : readExp bs = some (e, r)) (left : r ≠ [])
    (more : Bytes) : readExp (bs ++ more) = some (e, r ++ more) := by
  cases bs with
  | nil =>
      simp only [readExp, Option.some.injEq, Prod.mk.injEq] at read
      exact absurd read.2.symm left
  | cons b bs =>
      simp only [readExp, List.cons_append] at read ⊢
      by_cases exponent : b = 0x65 ∨ b = 0x45
      · rw [if_pos exponent] at read ⊢
        by_cases none_there : (readExpSign bs).2.takeWhile isDigit = []
        · rw [if_pos none_there] at read
          cases read
        · rw [if_neg none_there] at read
          simp only [Option.some.injEq, Prod.mk.injEq] at read
          obtain ⟨rfl, rfl⟩ := read
          have some_left : bs ≠ [] := by
            rintro rfl
            exact left rfl
          obtain ⟨taken, dropped⟩ := span_append left more
          rw [readExpSign_append some_left, taken, dropped, if_neg none_there]
      · rw [if_neg exponent] at read ⊢
        simp only [Option.some.injEq, Prod.mk.injEq] at read
        obtain ⟨rfl, rfl⟩ := read
        rfl

theorem readExp_length {bs r : Bytes} {e : Int} (read : readExp bs = some (e, r)) :
    r.length ≤ bs.length := by
  cases bs with
  | nil =>
      simp only [readExp, Option.some.injEq, Prod.mk.injEq] at read
      rw [← read.2]
  | cons b bs =>
      simp only [readExp] at read
      split_ifs at read <;> simp only [Option.some.injEq, Prod.mk.injEq] at read
      · rw [← read.2, List.length_cons]
        have digits := (List.dropWhile_sublist isDigit (l := (readExpSign bs).2)).length_le
        have signed := readExpSign_length bs
        omega
      · rw [← read.2, List.length_cons]
        have digits := (List.dropWhile_sublist isDigit (l := (readExpSign bs).2)).length_le
        have signed := readExpSign_length bs
        omega
      · rw [← read.2]

/-- What a number reading consists of. -/
theorem readNumber_cases {bs rest : Bytes} {d : Decimal}
    (read : readNumber bs = some (d, rest)) :
    ∃ frac r e, isIntPart ((readSign bs).2.takeWhile isDigit) ∧
      readFrac ((readSign bs).2.dropWhile isDigit) = some (frac, r) ∧
      readExp r = some (e, rest) ∧
      d = Decimal.ofExponent
        (if (readSign bs).1 then -(ofDigits ((readSign bs).2.takeWhile isDigit ++ frac) : Int)
          else ofDigits ((readSign bs).2.takeWhile isDigit ++ frac)) (e - frac.length) := by
  simp only [readNumber] at read
  by_cases whole : isIntPart ((readSign bs).2.takeWhile isDigit)
  · rw [if_pos whole] at read
    cases pointed : readFrac ((readSign bs).2.dropWhile isDigit) with
    | none => simp only [pointed] at read; cases read
    | some fr =>
        obtain ⟨frac, r⟩ := fr
        simp only [pointed] at read
        cases exponent : readExp r with
        | none => simp only [exponent] at read; cases read
        | some er =>
            obtain ⟨e, rest'⟩ := er
            simp only [exponent, Option.some.injEq, Prod.mk.injEq] at read
            obtain ⟨rfl, rfl⟩ := read
            exact ⟨frac, r, e, whole, rfl, exponent, rfl⟩
  · rw [if_neg whole] at read
    cases read

/-- A number that something stopped is read the same whatever follows. -/
theorem readNumber_append {bs rest : Bytes} {d : Decimal}
    (read : readNumber bs = some (d, rest)) (left : rest ≠ []) (more : Bytes) :
    readNumber (bs ++ more) = some (d, rest ++ more) := by
  obtain ⟨frac, r, e, whole, pointed, exponent, rfl⟩ := readNumber_cases read
  have r_left : r ≠ [] := by
    rintro rfl
    simp only [readExp, Option.some.injEq, Prod.mk.injEq] at exponent
    exact left exponent.2.symm
  have digits_left : (readSign bs).2.dropWhile isDigit ≠ [] := by
    intro ended
    rw [ended] at pointed
    simp only [readFrac, Option.some.injEq, Prod.mk.injEq] at pointed
    exact r_left pointed.2.symm
  have bs_left : bs ≠ [] := by
    rintro rfl
    exact digits_left rfl
  obtain ⟨taken, dropped⟩ := span_append digits_left more
  simp only [readNumber, readSign_append bs_left, taken, dropped, whole, if_true,
    readFrac_append pointed r_left, readExp_append exponent left]

theorem readNumber_length {bs rest : Bytes} {d : Decimal}
    (read : readNumber bs = some (d, rest)) : rest.length < bs.length := by
  obtain ⟨frac, r, e, whole, pointed, exponent, -⟩ := readNumber_cases read
  have some_digit : (readSign bs).2.takeWhile isDigit ≠ [] := by
    intro no_digit
    rw [no_digit] at whole
    exact absurd whole (by decide)
  have digits := congrArg List.length (List.takeWhile_append_dropWhile (p := isDigit)
    (l := (readSign bs).2))
  rw [List.length_append] at digits
  have taken := List.length_pos_iff.mpr some_digit
  have signed := readSign_length bs
  have frac_length := readFrac_length pointed
  have exp_length := readExp_length exponent
  omega

/-- The closing quote ends a string, whatever follows. -/
theorem readPieces_append {bs rest : Bytes} {ps : List Piece}
    (read : readPieces bs = some (ps, rest)) (more : Bytes) :
    readPieces (bs ++ more) = some (ps, rest ++ more) ∧ rest.length < bs.length := by
  fun_induction readPieces bs generalizing ps rest with
  | case2 bs =>
      simp only [Option.some.injEq, Prod.mk.injEq] at read
      obtain ⟨rfl, rfl⟩ := read
      exact ⟨by unfold readPieces; simp, Nat.lt_succ_self _⟩
  | case4 h₁ h₂ h₃ h₄ bs n ps' rest' found point notQuote ih =>
      simp only [Option.some.injEq, Prod.mk.injEq] at read
      obtain ⟨rfl, rfl⟩ := read
      obtain ⟨later, shorter⟩ := ih found
      refine ⟨?_, ?_⟩
      · unfold readPieces
        simp [notQuote, point, later]
      · simp only [List.length_cons]
        omega
  | case7 e bs notUnit c ps' rest' found letter notQuote ih =>
      simp only [Option.some.injEq, Prod.mk.injEq] at read
      obtain ⟨rfl, rfl⟩ := read
      obtain ⟨later, shorter⟩ := ih found
      refine ⟨?_, ?_⟩
      · unfold readPieces
        simp [notQuote, notUnit, letter, later]
      · simp only [List.length_cons]
        omega
  | case10 b bs notQuote notEscape notControl ps' rest' found ih =>
      simp only [Option.some.injEq, Prod.mk.injEq] at read
      obtain ⟨rfl, rfl⟩ := read
      obtain ⟨later, shorter⟩ := ih found
      refine ⟨?_, ?_⟩
      · unfold readPieces
        simp [notQuote, notEscape, notControl, later]
      · simp only [List.length_cons]
        omega
  | _ => cases read

theorem readString_append {bs rest s : Bytes} (read : readString bs = some (s, rest))
    (more : Bytes) : readString (bs ++ more) = some (s, rest ++ more) ∧ rest.length < bs.length := by
  obtain ⟨⟨ps, rest'⟩, found, same⟩ := Option.map_eq_some_iff.mp read
  simp only [Prod.mk.injEq] at same
  obtain ⟨rfl, rfl⟩ := same
  obtain ⟨later, shorter⟩ := readPieces_append found more
  exact ⟨by rw [readString, later]; rfl, shorter⟩

/-! ## The grammar -/

/-- What a production yields: a value, the elements behind the first one up to the closing
bracket, the members likewise, or one member. -/
inductive Production where
  | value (v : Json)
  | elements (vs : List Json)
  | member (key : Bytes) (v : Json)
  | members (ms : JsonObject)

/-- `Reads bs p rest`: the production `p` stands at the front of `bs`, behind white
space, and `rest` follows it. -/
inductive Reads : Bytes → Production → Bytes → Prop where
  | null {bs rest : Bytes} (word : skipWs bs = 0x6E :: 0x75 :: 0x6C :: 0x6C :: rest) :
      Reads bs (.value .null) rest
  | true {bs rest : Bytes} (word : skipWs bs = 0x74 :: 0x72 :: 0x75 :: 0x65 :: rest) :
      Reads bs (.value (.bool .true)) rest
  | false {bs rest : Bytes} (word : skipWs bs = 0x66 :: 0x61 :: 0x6C :: 0x73 :: 0x65 :: rest) :
      Reads bs (.value (.bool .false)) rest
  | number {bs rest : Bytes} {d : Decimal} (digits : readNumber (skipWs bs) = some (d, rest)) :
      Reads bs (.value (.number d)) rest
  | string {bs r rest s : Bytes} (opened : skipWs bs = quote :: r)
      (closed : readString r = some (s, rest)) : Reads bs (.value (.string s)) rest
  | emptyArray {bs r rest : Bytes} (opened : skipWs bs = lbracket :: r)
      (closed : skipWs r = rbracket :: rest) : Reads bs (.value (.array [])) rest
  | array {bs r r' rest : Bytes} {v : Json} {vs : List Json} (opened : skipWs bs = lbracket :: r)
      (first : Reads r (.value v) r') (others : Reads r' (.elements vs) rest) :
      Reads bs (.value (.array (v :: vs))) rest
  | emptyObject {bs r rest : Bytes} (opened : skipWs bs = lbrace :: r)
      (closed : skipWs r = rbrace :: rest) : Reads bs (.value (.object [])) rest
  | object {bs r r' rest key : Bytes} {v : Json} {ms : JsonObject}
      (opened : skipWs bs = lbrace :: r) (first : Reads r (.member key v) r')
      (others : Reads r' (.members ms) rest) : Reads bs (.value (.object ((key, v) :: ms))) rest
  | lastElement {bs rest : Bytes} (closed : skipWs bs = rbracket :: rest) :
      Reads bs (.elements []) rest
  | nextElement {bs r r' rest : Bytes} {v : Json} {vs : List Json}
      (separated : skipWs bs = comma :: r) (next : Reads r (.value v) r')
      (others : Reads r' (.elements vs) rest) : Reads bs (.elements (v :: vs)) rest
  | member {bs r r₁ r₂ rest key : Bytes} {v : Json} (opened : skipWs bs = quote :: r)
      (named : readString r = some (key, r₁)) (separated : skipWs r₁ = colon :: r₂)
      (held : Reads r₂ (.value v) rest) : Reads bs (.member key v) rest
  | lastMember {bs rest : Bytes} (closed : skipWs bs = rbrace :: rest) :
      Reads bs (.members []) rest
  | nextMember {bs r r' rest key : Bytes} {v : Json} {ms : JsonObject}
      (separated : skipWs bs = comma :: r) (next : Reads r (.member key v) r')
      (others : Reads r' (.members ms) rest) : Reads bs (.members ((key, v) :: ms)) rest

theorem skipWs_cons_length {bs r : Bytes} {c : UInt8} (found : skipWs bs = c :: r) :
    r.length < bs.length := by
  have shorter := skipWs_length bs
  rw [found, List.length_cons] at shorter
  exact shorter

theorem Reads.shrinks {bs rest : Bytes} {p : Production} (reads : Reads bs p rest) :
    rest.length < bs.length := by
  induction reads with
  | null word | true word | false word =>
      have shorter := skipWs_cons_length word
      simp only [List.length_cons] at shorter
      omega
  | number digits => exact (readNumber_length digits).trans_le (skipWs_length _)
  | string opened closed =>
      have inside := (readString_append closed []).2
      have outside := skipWs_cons_length opened
      omega
  | emptyArray opened closed | emptyObject opened closed =>
      have inside := skipWs_cons_length closed
      have outside := skipWs_cons_length opened
      omega
  | array opened _ _ first others | object opened _ _ first others
  | nextElement opened _ _ first others | nextMember opened _ _ first others =>
      have outside := skipWs_cons_length opened
      omega
  | lastElement closed | lastMember closed => exact skipWs_cons_length closed
  | member opened named separated _ held =>
      have outside := skipWs_cons_length opened
      have key := (readString_append named []).2
      have inside := skipWs_cons_length separated
      omega

theorem Reads.nonempty {bs rest : Bytes} {p : Production} (reads : Reads bs p rest) : bs ≠ [] :=
  List.length_pos_iff.mp (Nat.zero_lt_of_lt reads.shrinks)

/-- The production ends with a byte of its own. -/
def Production.closed : Production → Bool
  | .value (.number _) => .false
  | .member _ (.number _) => .false
  | _ => .true

/-- **A production that is closed, or stopped by another byte, reads the same when more
bytes follow.** -/
theorem Reads.append {bs rest : Bytes} {p : Production} (reads : Reads bs p rest)
    (ended : p.closed ∨ rest ≠ []) (more : Bytes) : Reads (bs ++ more) p (rest ++ more) := by
  induction reads with
  | null word => exact .null (skipWs_append word more)
  | true word => exact .true (skipWs_append word more)
  | false word => exact .false (skipWs_append word more)
  | number digits =>
      have left := ended.resolve_left (by simp [Production.closed])
      obtain ⟨c, r, found⟩ := List.exists_cons_of_ne_nil
        (List.length_pos_iff.mp (Nat.zero_lt_of_lt (readNumber_length digits)))
      rw [found] at digits
      refine .number ?_
      rw [skipWs_append found]
      exact readNumber_append digits left more
  | string opened closed =>
      exact .string (skipWs_append opened more) (readString_append closed more).1
  | emptyArray opened closed =>
      exact .emptyArray (skipWs_append opened more) (skipWs_append closed more)
  | array opened _ others first later =>
      exact .array (skipWs_append opened more) (first (.inr others.nonempty)) (later (.inl rfl))
  | emptyObject opened closed =>
      exact .emptyObject (skipWs_append opened more) (skipWs_append closed more)
  | object opened _ others first later =>
      exact .object (skipWs_append opened more) (first (.inr others.nonempty)) (later (.inl rfl))
  | lastElement closed => exact .lastElement (skipWs_append closed more)
  | nextElement separated _ others first later =>
      exact .nextElement (skipWs_append separated more) (first (.inr others.nonempty))
        (later (.inl rfl))
  | @member bs r r₁ r₂ rest key v opened named separated _ held =>
      refine .member (skipWs_append opened more) (readString_append named more).1
        (skipWs_append separated more) (held ?_)
      cases v <;> exact ended
  | lastMember closed => exact .lastMember (skipWs_append closed more)
  | nextMember separated _ others first later =>
      exact .nextMember (skipWs_append separated more) (first (.inr others.nonempty))
        (later (.inl rfl))

end IsgConsole.Theory.Json
