/-
# BaseLib.CommandLine — what is typed on the console

A line is `start`, `stop`, `save`, or names an attribute of the project or of a device,
`name.key`, and maybe a value for it, `name.key = value`, as JSON.  What is typed is read under the
local codec.

* `request_get_iff`, `request_set_iff` — the lines that the pattern of `doCommand` takes, and what
  it takes them for;
* `typed_exact` — **in every run a line does what it asks for and nothing else, or nothing**;
* `typed_reaches` — **every attribute of every device can be set**, until something is named anew.
-/
import IsgConsole.BaseLib.Restart
import IsgConsole.Theory.Regex

namespace IsgConsole.BaseLib.CommandLine

open IsgConsole.Theory IsgConsole.Theory.Json
open IsgConsole.BaseLib.Restart

set_option autoImplicit false

/-! ## The pattern -/

abbrev newline : UInt8 := 0x0A
abbrev equals : UInt8 := 0x3D

/-- `\s`. -/
def isSpace (b : UInt8) : Bool := b = 0x20 ∨ 0x09 ≤ b ∧ b ≤ 0x0D

/-- `\w`. -/
def isWord (b : UInt8) : Bool :=
  0x30 ≤ b ∧ b ≤ 0x39 ∨ 0x41 ≤ b ∧ b ≤ 0x5A ∨ 0x61 ≤ b ∧ b ≤ 0x7A ∨ b = 0x5F

/-- `[\w-]`. -/
def isName (b : UInt8) : Bool := isWord b || b = minus

/-- `.`; other bytes are parts of characters. -/
def isAny (b : UInt8) : Bool := b ≠ newline

/-- `=\s*(.+)\s*`. -/
def rxValue : Regex UInt8 :=
  .seq (.one (· = equals)) (.seq (.many isSpace) (.seq (.group 3 (.some' isAny)) (.many isSpace)))

/-- `(?:=\s*(.+)\s*)?$`. -/
def rxEnd : Regex UInt8 := .seq (.opt rxValue) (.finish (· = newline))

/-- `(\w+)\s*(?:=\s*(.+)\s*)?$`. -/
def rxKey : Regex UInt8 := .seq (.group 2 (.some' isWord)) (.seq (.many isSpace) rxEnd)

/-- `([\w-]+)\.(\w+)\s*(?:=\s*(.+)\s*)?$`. -/
def rxName : Regex UInt8 := .seq (.group 1 (.some' isName)) (.seq (.one (· = point)) rxKey)

/-- `^\s*([\w-]+)\.(\w+)\s*(?:=\s*(.+)\s*)?$`. -/
def rx : Regex UInt8 := .seq .start (.seq (.many isSpace) rxName)

/-- `lastCapturedIndex()`. -/
def lastCapturedIndex (groups : List (Nat × Bytes)) : Nat := (groups.map Prod.fst).foldr max 0

inductive Request where
  | get (name key : Bytes)
  | set (name key value : Bytes)

/-- What a match stands for. -/
def requestOf (groups : List (Nat × Bytes)) : Request :=
  if lastCapturedIndex groups = 2 then .get (Regex.captured groups 1) (Regex.captured groups 2)
  else .set (Regex.captured groups 1) (Regex.captured groups 2) (Regex.captured groups 3)

/-- What `doCommand` reads of a line. -/
def request (cmd : Bytes) : Option Request := (rx.search cmd).map requestOf

/-! ## Lines of that form -/

/-- A line spells the name of an object and a key, in front of something. -/
structure Spells (cmd name key tail : Bytes) : Prop where
  named : name ≠ [] ∧ ∀ b ∈ name, isName b = true
  keyed : key ≠ [] ∧ ∀ b ∈ key, isWord b = true
  spelled : ∃ indent gap, (∀ b ∈ indent, isSpace b = true) ∧ (∀ b ∈ gap, isSpace b = true) ∧
    cmd = indent ++ (name ++ point :: (key ++ (gap ++ tail)))

/-- What is taken for the value: what stands behind the spaces, or the last of them. -/
def valueOf (text : Bytes) : Bytes :=
  match text.dropWhile isSpace with
  | [] => text.getLast?.toList
  | value => value

theorem byte_cases {P : UInt8 → Prop} (each : ∀ n < 256, P (UInt8.ofNat n)) (b : UInt8) : P b := by
  rw [← UInt8.ofNat_toNat (x := b)]
  exact each b.toNat b.toNat_lt

theorem rxName_blocks : rxName.Blocks isSpace := byte_cases (by decide +kernel)

theorem rxPoint_blocks : (Regex.seq (.one (· = point)) rxKey).Blocks isName :=
  byte_cases (by decide +kernel)

theorem rxEnd_blocks : (Regex.seq (.many isSpace) rxEnd).Blocks isWord :=
  byte_cases (by decide +kernel)

theorem isSpace_of_isName (b : UInt8) : isName b = true → isSpace b = false :=
  byte_cases (P := fun b => isName b = true → isSpace b = false) (by decide +kernel) b

theorem isWord_of_isSpace (b : UInt8) : isSpace b = true → isWord b = false :=
  byte_cases (P := fun b => isSpace b = true → isWord b = false) (by decide +kernel) b

theorem head_of_all {p q : UInt8 → Bool} {front back : Bytes} (all : ∀ b ∈ front, p b = true)
    (apart : ∀ b, p b = true → q b = false) (stops : ∀ b ∈ back.head?, q b = false) :
    ∀ b ∈ (front ++ back).head?, q b = false := by
  cases front with
  | nil => exact stops
  | cons x front =>
      intro b head
      obtain rfl : x = b := Option.some.inj head
      exact apart x (all x List.mem_cons_self)

/-- What the pattern does with a line of that form, up to the key. -/
theorem search_front {cmd name key tail : Bytes} (spells : Spells cmd name key tail)
    (stops : ∀ b ∈ tail.head?, isSpace b = false ∧ isWord b = false)
    (goes : (rxEnd.run (fun c => some c.groups) ⟨false, tail, [(2, key), (1, name)]⟩).isSome) :
    rx.search cmd =
      rxEnd.run (fun c => some c.groups) ⟨false, tail, [(2, key), (1, name)]⟩ := by
  obtain ⟨⟨some_name, named⟩, ⟨some_key, keyed⟩, indent, gap, blank, blank', rfl⟩ := spells
  have name_head : ∀ b ∈ (name ++ point :: (key ++ (gap ++ tail))).head?, isSpace b = false :=
    head_of_all named isSpace_of_isName fun b head => by cases head; decide
  have gap_head : ∀ b ∈ (gap ++ tail).head?, isWord b = false :=
    head_of_all blank' isWord_of_isSpace fun b head => (stops b head).2
  rw [rx, Regex.search_start, Regex.run_seq_many rxName_blocks blank name_head, rxName,
    Regex.run_seq_group rxPoint_blocks 1 some_name named fun b head => by cases head; decide]
  show rxKey.run _ ⟨false, key ++ (gap ++ tail), [(1, name)]⟩ = _
  rw [rxKey, Regex.run_seq_group rxEnd_blocks 2 some_key keyed gap_head]
  have first := Regex.runMany_first (p := isSpace)
    (k := rxEnd.run (fun c : Regex.Cursor UInt8 => some c.groups)) gap [] tail
    (by simpa using blank') (fun b head => (stops b head).1) false [(2, key), (1, name)] (by simp)
    (by simpa using goes)
  rw [Bool.false_and] at first
  exact first

/-- The value of a line. -/
theorem run_value {value : Bytes} (nonempty : value ≠ []) (line : newline ∉ value)
    (atStart : Bool) (groups : List (Nat × Bytes)) :
    (Regex.seq (.group 3 (.some' isAny)) (.many isSpace)).run
        ((Regex.finish (· = newline)).run fun c => some c.groups) ⟨atStart, value, groups⟩ =
      some ((3, value) :: groups) := by
  have any : ∀ c ∈ value, isAny c = true := by
    intro c there
    exact decide_eq_true fun same => line (same ▸ there)
  exact Regex.run_seq_group_all 3 nonempty any atStart groups rfl

/-- The spaces behind `=`, and the value. -/
theorem run_text {text : Bytes} (nonempty : text ≠ []) (line : newline ∉ text)
    (groups : List (Nat × Bytes)) :
    (Regex.seq (.many isSpace) (.seq (.group 3 (.some' isAny)) (.many isSpace))).run
        ((Regex.finish (· = newline)).run fun c => some c.groups) ⟨false, text, groups⟩ =
      some ((3, valueOf text) :: groups) := by
  have front : ∀ b ∈ text.takeWhile isSpace, isSpace b = true :=
    fun b there => (List.mem_takeWhile_imp there)
  have parts := List.takeWhile_append_dropWhile (p := isSpace) (l := text)
  cases value : text.dropWhile isSpace with
  | cons b value' =>
      have stops : isSpace b = false := by
        have head := List.head?_dropWhile_not isSpace text
        rw [value] at head
        simpa using head
      have clean : newline ∉ b :: value' := fun there =>
        line (value ▸ (List.dropWhile_sublist isSpace).subset <| there)
      have found := run_value (List.cons_ne_nil b value') clean
        (false && (text.takeWhile isSpace).isEmpty) groups
      have first := Regex.runMany_first (p := isSpace)
        (k := (Regex.seq (.group 3 (.some' isAny)) (.many isSpace)).run
          ((Regex.finish (· = newline)).run fun c : Regex.Cursor UInt8 => some c.groups))
        (text.takeWhile isSpace) [] (b :: value') (by simpa using front)
        (fun c head => by cases head; exact stops) false groups (by simp)
        (by rw [List.nil_append, found]; rfl)
      rw [List.nil_append, ← value, parts, value, found] at first
      rw [valueOf, value]
      exact first
  | nil =>
      -- the last space is left for the group
      obtain ⟨spaces, b, rfl⟩ := (List.eq_nil_or_concat' text).resolve_left nonempty
      have blank := List.dropWhile_eq_nil_iff.mp value
      have clean : newline ∉ [b] := fun there => line (List.mem_append_right _ there)
      have found := run_value (List.cons_ne_nil b []) clean (false && spaces.isEmpty) groups
      have first := Regex.runMany_first (p := isSpace)
        (k := (Regex.seq (.group 3 (.some' isAny)) (.many isSpace)).run
          ((Regex.finish (· = newline)).run fun c : Regex.Cursor UInt8 => some c.groups))
        spaces [b] [] blank (by simp) false groups
        (fun taken left whole some_taken => by
          have none : left = [] := by
            cases taken with
            | nil => exact absurd rfl some_taken
            | cons c taken => exact (List.append_eq_nil_iff.mp (List.cons.inj whole).2.symm).2
          rw [none]
          rfl)
        (by rw [List.append_nil, found]; rfl)
      rw [List.append_nil, found] at first
      rw [valueOf, value, List.getLast?_concat]
      exact first

theorem run_end_set {text : Bytes} (nonempty : text ≠ []) (line : newline ∉ text)
    (groups : List (Nat × Bytes)) :
    rxEnd.run (fun c => some c.groups) ⟨false, equals :: text, groups⟩ =
      some ((3, valueOf text) :: groups) := by
  have inside := run_text nonempty line groups
  show ((Regex.seq (.many isSpace) (.seq (.group 3 (.some' isAny)) (.many isSpace))).run
    ((Regex.finish (· = newline)).run fun c => some c.groups) ⟨false, text, groups⟩).or _ = _
  rw [inside, Option.some_or]

/-- What the end of the pattern takes. -/
theorem tail_of_matches {c c' : Regex.Cursor UInt8} (line : newline ∉ c.rest)
    (way : rxEnd.Matches c c') : c.rest = [] ∨ ∃ text, text ≠ [] ∧ c.rest = equals :: text := by
  cases way with
  | seq value finish =>
      cases value with
      | optNone =>
          cases finish with
          | finish none => exact .inl none
          | finishLine last isLine =>
              rw [last, of_decide_eq_true isLine] at line
              exact absurd List.mem_cons_self line
      | optSome value =>
          cases value with | seq sign way
          cases way with | seq spaces way
          cases way with | seq value _
          cases value with | group value
          obtain ⟨_, sign, rest⟩ := sign.one_split
          obtain rfl := of_decide_eq_true sign
          obtain ⟨spaces, -, rest'⟩ := spaces.many_split
          obtain ⟨value, some_value, -, rest''⟩ := value.some_split
          refine .inr ⟨_, ?_, rest⟩
          rw [rest', rest'']
          simp [some_value]

/-- A line that the pattern takes is of that form. -/
theorem spells_of_search {cmd : Bytes} {groups : List (Nat × Bytes)} (line : newline ∉ cmd)
    (found : rx.search cmd = some groups) :
    ∃ name key tail, Spells cmd name key tail ∧
      (tail = [] ∨ ∃ text, text ≠ [] ∧ tail = equals :: text) := by
  rw [rx, Regex.search_start] at found
  obtain ⟨c, way, -⟩ := Regex.run_sound found
  cases way with | seq indent way
  cases way with | seq name way
  cases way with | seq dot way
  cases way with | seq key way
  cases way with | @seq _ _ _ last _ gap way
  cases name with | group name
  cases key with | group key
  obtain ⟨indent, blank, rest₁⟩ := indent.many_split
  obtain ⟨name, some_name, named, rest₂⟩ := name.some_split
  obtain ⟨_, dot, rest₃⟩ := dot.one_split
  obtain rfl := of_decide_eq_true dot
  obtain ⟨key, some_key, keyed, rest₄⟩ := key.some_split
  obtain ⟨gap, blank', rest₅⟩ := gap.many_split
  have spelled : cmd = indent ++ (name ++ point :: (key ++ (gap ++ last.rest))) := by
    dsimp only [Regex.Cursor.close] at rest₁ rest₃ rest₅
    rw [rest₁, rest₂, rest₃, rest₄, rest₅]
  have clean : newline ∉ last.rest := fun there => line (by rw [spelled]; simp [there])
  exact ⟨name, key, last.rest,
    ⟨⟨some_name, named⟩, ⟨some_key, keyed⟩, indent, gap, blank, blank', spelled⟩,
    tail_of_matches clean way⟩

/-- What the pattern finds in a line of that form. -/
theorem search_get {cmd name key : Bytes} (spells : Spells cmd name key []) :
    rx.search cmd = some [(2, key), (1, name)] :=
  search_front spells (by simp) rfl

theorem search_set {cmd name key text : Bytes} (line : newline ∉ cmd) (some_text : text ≠ [])
    (spells : Spells cmd name key (equals :: text)) :
    rx.search cmd = some [(3, valueOf text), (2, key), (1, name)] := by
  have clean : newline ∉ text := by
    obtain ⟨-, -, indent, gap, -, -, rfl⟩ := spells
    exact fun there => line (by simp [there])
  have found := run_end_set some_text clean [(2, key), (1, name)]
  rw [← found]
  refine search_front spells (fun b head => ?_) (by rw [found]; rfl)
  cases head
  decide

/-- **The lines that ask for an attribute.** -/
theorem request_get_iff {cmd name key : Bytes} (line : newline ∉ cmd) :
    request cmd = some (.get name key) ↔ Spells cmd name key [] := by
  constructor
  · intro asked
    obtain ⟨groups, found, asks⟩ := Option.map_eq_some_iff.mp asked
    obtain ⟨name', key', tail, spells, rfl | ⟨text, some_text, rfl⟩⟩ := spells_of_search line found
    · cases (search_get spells).symm.trans found
      cases asks
      exact spells
    · cases (search_set line some_text spells).symm.trans found
      cases asks
  · intro spells
    rw [request, search_get spells]
    rfl

/-- **The lines that set one**, and the text of the value. -/
theorem request_set_iff {cmd name key value : Bytes} (line : newline ∉ cmd) :
    request cmd = some (.set name key value) ↔
      ∃ text, text ≠ [] ∧ Spells cmd name key (equals :: text) ∧ value = valueOf text := by
  constructor
  · intro asked
    obtain ⟨groups, found, asks⟩ := Option.map_eq_some_iff.mp asked
    obtain ⟨name', key', tail, spells, rfl | ⟨text, some_text, rfl⟩⟩ := spells_of_search line found
    · cases (search_get spells).symm.trans found
      cases asks
    · cases (search_set line some_text spells).symm.trans found
      cases asks
      exact ⟨text, some_text, spells, rfl⟩
  · rintro ⟨text, some_text, spells, rfl⟩
    rw [request, search_set line some_text spells]
    rfl

/-! ## The console -/

/-- `EngineObject::getAttr`. -/
def getAttr {W : Type} (attrList : List (Attribute W)) (s : EngineObject W) (key : Bytes) : Json :=
  match attrList.find? fun a => a.m_key = key with
  | some a => s.m_value a.m_key
  | none => .null

section Console

variable {V R : Type} (env : Outside V R)

/-- What is shown of an attribute. -/
def shown (s : Restart.Console V R) (name key : Bytes) : Option Json :=
  let v :=
    if name = s.name then some (getAttr env.cls.attrList s key)
    else (s.world.objects.m_objects.lookup name).map fun ptr =>
      getAttr ptr.kind.attrList ptr.state key
  v.bind fun
    | .null => none
    | v => some v

/-- `EngineProject::doCommand`, and what it shows. -/
def doCommand (s : Restart.Console V R) (cmd : Bytes) : Restart.Console V R × Option Json :=
  match request cmd with
  | none => (s, none)
  | some (.get name key) => (s, shown env s name key)
  | some (.set name key value) =>
      if name = s.name ∨ name ∈ s.world.objects.m_objects then
        match env.qt.fromJson (lbracket :: (value ++ [rbracket])) with
        | some (.array [v]) => ((Restart.Console.step env s (.set name key v)).1, none)
        | _ => (s, none)
      else (s, none)

/-- `project->setAttr(key, true)`. -/
def setTrue (s : Restart.Console V R) (key : String) (value : Bool) : Restart.Console V R :=
  (setAttr env.cls.attrList s (utf8 key) (.bool value) false).2

/-- A line in `handleInput`, but for those that end the program. -/
def handleLine (s : Restart.Console V R) (cmd : Bytes) : Restart.Console V R × Option Json :=
  if cmd = utf8 "start" then (setTrue env s "enabled" true, none)
  else if cmd = utf8 "stop" then (setTrue env s "enabled" false, none)
  else if cmd = utf8 "save" then (setTrue env s "save" true, none)
  else if cmd = utf8 "help" then (s, none)
  else if cmd ≠ [] then doCommand env s (env.qt.fromLocal8Bit (cString cmd))
  else (s, none)

/-- What happens to a console: a line is typed, or something else. -/
inductive Input (V R : Type) where
  | typed (cmd : Bytes)
  | event (e : Event V R)

/-- `exit` and `test_dump` end the program. -/
def Ends (cmd : Bytes) : Prop := cmd = utf8 "exit" ∨ cmd = utf8 "test_dump"

instance (cmd : Bytes) : Decidable (Ends cmd) :=
  inferInstanceAs (Decidable (cmd = utf8 "exit" ∨ cmd = utf8 "test_dump"))

/-- `handleInput`, with what the other threads do in between. -/
def handleInput : Restart.Console V R → List (Input V R) → Restart.Console V R
  | s, [] => s
  | s, .typed cmd :: inputs =>
      if Ends cmd then s else handleInput (handleLine env s cmd).1 inputs
  | s, .event e :: inputs => handleInput (Restart.Console.step env s e).1 inputs

/-! ## What lines ask for -/

/-- A line asks for a step of the console. -/
inductive Asks (s : Restart.Console V R) : Bytes → Event V R → Prop where
  | start : Asks s (utf8 "start") (.set s.name (utf8 "enabled") (.bool true))
  | stop : Asks s (utf8 "stop") (.set s.name (utf8 "enabled") (.bool false))
  | save : Asks s (utf8 "save") (.set s.name (utf8 "save") (.bool true))
  | value {cmd name key text : Bytes} {v : Json}
      (spells : Spells (env.qt.fromLocal8Bit (cString cmd)) name key (equals :: text))
      (some_text : text ≠ [])
      (known : name = s.name ∨ name ∈ s.world.objects.m_objects)
      (read : env.qt.fromJson (lbracket :: (valueOf text ++ [rbracket])) = some (.array [v])) :
      Asks s cmd (.set name key v)

/-- What a run of inputs asks for, line by line. -/
inductive Meant : Restart.Console V R → List (Input V R) → List (Event V R) → Prop where
  | nothing {s : Restart.Console V R} : Meant s [] []
  | ends {s : Restart.Console V R} {cmd : Bytes} {inputs : List (Input V R)} (ended : Ends cmd) :
      Meant s (.typed cmd :: inputs) []
  | asks {s : Restart.Console V R} {cmd : Bytes} {e : Event V R} {inputs : List (Input V R)}
      {es : List (Event V R)} (asked : Asks env s cmd e)
      (more : Meant (Restart.Console.step env s e).1 inputs es) :
      Meant s (.typed cmd :: inputs) (e :: es)
  | idle {s : Restart.Console V R} {cmd : Bytes} {inputs : List (Input V R)}
      {es : List (Event V R)} (goesOn : ¬ Ends cmd) (nothing : ∀ e, ¬ Asks env s cmd e)
      (more : Meant s inputs es) : Meant s (.typed cmd :: inputs) es
  | event {s : Restart.Console V R} {e : Event V R} {inputs : List (Input V R)}
      {es : List (Event V R)} (more : Meant (Restart.Console.step env s e).1 inputs es) :
      Meant s (.event e :: inputs) (e :: es)

variable {env} {s : Restart.Console V R}

variable (env) in
theorem line_fromLocal8Bit {cmd : Bytes} (line : newline ∉ cmd) :
    newline ∉ env.qt.fromLocal8Bit (cString cmd) :=
  env.qt.fromLocal8Bit_line _ fun there => line ((List.takeWhile_sublist _).subset there)

/-- A line with an attribute is none of the words. -/
theorem word_not_spells {word : Bytes} (plain : Ascii (cString word) ∧ point ∉ cString word)
    {name key tail : Bytes} : ¬ Spells (env.qt.fromLocal8Bit (cString word)) name key tail := by
  rintro ⟨-, -, indent, gap, -, -, spelled⟩
  obtain ⟨ascii, pointless⟩ := plain
  rw [env.qt.fromLocal8Bit_ascii _ ascii] at spelled
  rw [spelled] at pointless
  simp at pointless

theorem doCommand_of_asks {cmd name key text : Bytes} {v : Json} (line : newline ∉ cmd)
    (spells : Spells cmd name key (equals :: text)) (some_text : text ≠ [])
    (known : name = s.name ∨ name ∈ s.world.objects.m_objects)
    (read : env.qt.fromJson (lbracket :: (valueOf text ++ [rbracket])) = some (.array [v])) :
    doCommand env s cmd = ((Restart.Console.step env s (.set name key v)).1, none) := by
  have asked := (request_set_iff line).mpr ⟨text, some_text, spells, rfl⟩
  rw [doCommand, asked]
  dsimp only
  rw [if_pos known, read]

/-- **A line does what it asks for.** -/
theorem handleLine_asks {cmd : Bytes} {e : Event V R} (line : newline ∉ cmd)
    (asked : Asks env s cmd e) :
    handleLine env s cmd = ((Restart.Console.step env s e).1, none) ∧ ¬ Ends cmd := by
  have start : ∀ key value, (Restart.Console.step env s (.set s.name (utf8 key) (.bool value))).1 =
      setTrue env s key value := by
    intro key value
    dsimp only [Restart.Console.step]
    rw [if_pos rfl]
    rfl
  cases asked with
  | start => exact ⟨by rw [start]; rfl, by decide +kernel⟩
  | stop => exact ⟨by rw [start]; rfl, by decide +kernel⟩
  | save => exact ⟨by rw [start]; rfl, by decide +kernel⟩
  | @value cmd name key text v spells some_text known read =>
      have word : ∀ word : Bytes, Ascii (cString word) ∧ point ∉ cString word → cmd ≠ word := by
        rintro word plain rfl
        exact word_not_spells plain spells
      constructor
      · rw [handleLine, if_neg (word (utf8 "start") (by decide +kernel)),
          if_neg (word (utf8 "stop") (by decide +kernel)),
          if_neg (word (utf8 "save") (by decide +kernel)),
          if_neg (word (utf8 "help") (by decide +kernel)), if_pos (word [] (by decide))]
        exact doCommand_of_asks (line_fromLocal8Bit env line) spells some_text known read
      · rintro (exit | test_dump)
        · exact word (utf8 "exit") (by decide +kernel) exit
        · exact word (utf8 "test_dump") (by decide +kernel) test_dump

/-- **A line that asks for nothing does nothing.** -/
theorem handleLine_idle {cmd : Bytes} (line : newline ∉ cmd) (nothing : ∀ e, ¬ Asks env s cmd e) :
    (handleLine env s cmd).1 = s := by
  unfold handleLine
  split
  next start => exact absurd (start ▸ Asks.start) (nothing _)
  split
  next stop => exact absurd (stop ▸ Asks.stop) (nothing _)
  split
  next save => exact absurd (save ▸ Asks.save) (nothing _)
  split
  next => rfl
  split
  next =>
    unfold doCommand
    split
    next => rfl
    next => rfl
    next name key value asked =>
      obtain ⟨text, some_text, spells, rfl⟩ := (request_set_iff (line_fromLocal8Bit env line)).mp asked
      split
      next known =>
        split
        next v read => exact absurd (Asks.value spells some_text known read) (nothing _)
        next => rfl
      next => rfl
  next => rfl

/-- The lines of a run are lines. -/
def Lines (inputs : List (Input V R)) : Prop := ∀ cmd, .typed cmd ∈ inputs → newline ∉ cmd

theorem handleInput_meant {inputs : List (Input V R)} (lines : Lines inputs) :
    (∃ es, Meant env s inputs es) ∧ ∀ es, Meant env s inputs es →
      handleInput env s inputs = Machine.final (Restart.Console.step env) s es := by
  induction inputs generalizing s with
  | nil =>
      refine ⟨⟨[], .nothing⟩, fun es meant => ?_⟩
      cases meant
      rfl
  | cons input inputs ih =>
      have lines' : Lines inputs := fun cmd there => lines cmd (List.mem_cons_of_mem _ there)
      cases input with
      | event e =>
          obtain ⟨⟨es, more⟩, run⟩ := ih (s := (Restart.Console.step env s e).1) lines'
          refine ⟨⟨e :: es, .event more⟩, fun es meant => ?_⟩
          cases meant with
          | event more => exact run _ more
      | typed cmd =>
          have line := lines cmd List.mem_cons_self
          constructor
          · by_cases ended : Ends cmd
            · exact ⟨[], .ends ended⟩
            by_cases asked : ∃ e, Asks env s cmd e
            · obtain ⟨e, asked⟩ := asked
              obtain ⟨⟨es, more⟩, -⟩ := ih (s := (Restart.Console.step env s e).1) lines'
              exact ⟨e :: es, .asks asked more⟩
            · obtain ⟨⟨es, more⟩, -⟩ := ih (s := s) lines'
              exact ⟨es, .idle ended (not_exists.mp asked) more⟩
          · intro es meant
            cases meant with
            | ends ended =>
                rw [handleInput, if_pos ended]
                rfl
            | asks asked more =>
                obtain ⟨does, goesOn⟩ := handleLine_asks line asked
                rw [handleInput, if_neg goesOn, does]
                exact (ih lines').2 _ more
            | idle goesOn nothing more =>
                rw [handleInput, if_neg goesOn, handleLine_idle line nothing]
                exact (ih lines').2 _ more

/-- **A run of inputs is the run of what they ask for**, and all inputs ask for something, or for
nothing. -/
theorem typed_exact {inputs : List (Input V R)} (lines : Lines inputs) :
    (∃ es, Meant env s inputs es) ∧ ∀ es, Meant env s inputs es →
      handleInput env s inputs = Machine.final (Restart.Console.step env) s es :=
  handleInput_meant lines

/-! ## Every attribute of every device -/

theorem isName_of_isDigit (b : UInt8) : isDigit b = true → isName b = true :=
  byte_cases (P := fun b => isDigit b = true → isName b = true) (by decide +kernel) b

/-- An object of a definition can be named in a line. -/
theorem isName_name {productType : Bytes} {obj : JsonObject} {node : Definition.Node}
    (there : node ∈ Definition.nodesOfDef productType obj) :
    node.name ≠ [] ∧ ∀ b ∈ node.name, isName b = true := by
  have words : node.nodeName ≠ [] ∧ ∀ b ∈ node.nodeName, isName b = true := by
    rcases Definition.nodeName_cases there with camera | sensor | executor
    · rw [camera]
      decide +kernel
    · rw [sensor]
      decide +kernel
    · rw [executor]
      decide +kernel
  have number : ∀ n : Int, ∀ b ∈ printInt n, isName b = true := by
    intro n b here
    rcases List.mem_append.mp here with sign | digits
    · split at sign
      next =>
        rw [List.mem_singleton.mp sign]
        decide
      next => cases sign
    · exact isName_of_isDigit b (natDigits_digits _ b digits)
  unfold Definition.Node.name
  cases node.definition.value (utf8 "id") with
  | none => exact words
  | some value =>
      refine ⟨by simp [words.1], fun b here => ?_⟩
      dsimp only at here
      rw [List.append_assoc] at here
      rcases List.mem_append.mp here with word | rest
      · exact words.2 b word
      rcases List.mem_append.mp rest with dash | digits
      · rw [show utf8 "-" = [minus] from by decide +kernel, List.mem_singleton] at dash
        rw [dash]
        decide
      · exact number _ b digits

/-- `name.key=text`. -/
def lineOf (name key text : Bytes) : Bytes := name ++ point :: (key ++ equals :: text)

variable (env) in
/-- A text of a value, in the brackets of `doCommand`. -/
structure Reads (text : Bytes) (v : Json) : Prop where
  solid : ∃ c rest, text = c :: rest ∧ isSpace c = false
  read : env.qt.fromJson (lbracket :: (text ++ [rbracket])) = some (.array [v])

variable (env s) in
/-- A line sets an attribute of a device, and does nothing else. -/
def Sets (cmd name key : Bytes) (v : Json) : Prop :=
  (handleLine env s cmd).1 =
    { s with
      world.objects.m_objects :=
        s.world.objects.m_objects.modify name fun ptr => ptr.setAttr key v false }

variable (env) in
/-- An input that names nothing anew. -/
def Input.Ordinary : Input V R → Prop
  | .typed cmd =>
      ∀ name tail, ¬ Spells (env.qt.fromLocal8Bit (cString cmd)) name (utf8 "name") tail
  | .event e => e.Ordinary

theorem meant_ordinary {inputs : List (Input V R)} {es : List (Event V R)}
    (ordinary : ∀ i ∈ inputs, i.Ordinary env) (meant : Meant env s inputs es) :
    ∀ e ∈ es, e.Ordinary := by
  induction meant with
  | nothing => simp
  | ends ended => simp
  | asks asked more ih =>
      refine List.forall_mem_cons.mpr
        ⟨?_, ih fun i later => ordinary i (List.mem_cons_of_mem _ later)⟩
      cases asked with
      | start | stop | save => exact utf8_injective.ne (by decide)
      | value spells =>
          rintro rfl
          exact ordinary _ List.mem_cons_self _ _ spells
  | idle goesOn nothing more ih => exact ih fun i later => ordinary i (List.mem_cons_of_mem _ later)
  | event more ih =>
      exact List.forall_mem_cons.mpr ⟨ordinary _ List.mem_cons_self,
        ih fun i later => ordinary i (List.mem_cons_of_mem _ later)⟩

/-- What such a line asks for. -/
theorem asks_lineOf {cmd name key text : Bytes} {v : Json}
    (decoded : env.qt.fromLocal8Bit (cString cmd) = lineOf name key text)
    (named : name ≠ [] ∧ ∀ b ∈ name, isName b = true) (known : name ∈ s.world.objects.m_objects)
    (keyed : key ≠ [] ∧ ∀ b ∈ key, isWord b = true) (reads : Reads env text v) :
    Asks env s cmd (.set name key v) := by
  obtain ⟨⟨c, rest, rfl, solid⟩, read⟩ := reads
  have value : valueOf (c :: rest) = c :: rest := by
    rw [valueOf, List.dropWhile_cons_of_neg (by rw [solid]; exact Bool.false_ne_true)]
  refine .value ⟨named, keyed, [], [], by simp, by simp, decoded⟩ (List.cons_ne_nil _ _)
    (.inr known) ?_
  rw [value]
  exact read

/-- A value of ASCII strings has a text, and the line with it is read as it is typed. -/
theorem exists_line {name key : Bytes} (named : ∀ b ∈ name, isName b = true)
    (keyed : ∀ b ∈ key, isWord b = true) {v : Json} (ascii : AsciiValue v)
    (holds : env.qt.Holds v) :
    ∃ text, Reads env text v ∧ newline ∉ lineOf name key text ∧
      env.qt.fromLocal8Bit (cString (lineOf name key text)) = lineOf name key text := by
  obtain ⟨c, rest, written, ink, line⟩ := env.qt.toJson_line v
  have plain : Ascii (c :: rest) := by
    have all := env.qt.toJson_ascii .Compact (.array [v])
      (.array (List.forall_mem_singleton.mpr ascii))
    rw [written] at all
    exact fun b here => all b (List.mem_cons_of_mem _ (List.mem_append_left [rbracket] here))
  have solid : isSpace c = false :=
    byte_cases (P := fun c => 0x20 < c → isSpace c = false) (by decide +kernel) c ink
  have whole : env.qt.Holds (.array [v]) := Bool.and_eq_true_iff.mpr ⟨holds, rfl⟩
  have read := env.qt.fromJson_of_holds .Compact rfl whole
  rw [written] at read
  have controls : Line (lineOf name key (c :: rest)) := by
    have isName := byte_cases (P := fun b => isName b = true → 0x20 ≤ b) (by decide +kernel)
    have isWord := byte_cases (P := fun b => isWord b = true → 0x20 ≤ b) (by decide +kernel)
    exact Line.append (fun b here => isName b (named b here)) (Line.cons (by decide)
      (Line.append (fun b here => isWord b (keyed b here))
        (Line.cons (by decide) (Line.cons (UInt8.le_of_lt ink) line))))
  have low : Ascii (lineOf name key (c :: rest)) := by
    have isName := byte_cases (P := fun b => isName b = true → b < 0x80) (by decide +kernel)
    have isWord := byte_cases (P := fun b => isWord b = true → b < 0x80) (by decide +kernel)
    exact Ascii.append (fun b here => isName b (named b here)) (Ascii.cons (by decide)
      (Ascii.append (fun b here => isWord b (keyed b here)) (Ascii.cons (by decide) plain)))
  have terminated : cString (lineOf name key (c :: rest)) = lineOf name key (c :: rest) := by
    rw [cString_eq_iff]
    rintro b here rfl
    exact absurd (controls 0 here) (by decide)
  refine ⟨c :: rest, ⟨⟨c, rest, rfl, solid⟩, read⟩,
    fun there => absurd (controls newline there) (by decide), ?_⟩
  rw [terminated, env.qt.fromLocal8Bit_ascii _ low]

end Console

/-! ## A soft camera -/

/-- The console of a soft camera. -/
def softConsole : Restart.Console Unit (Bytes → Option Bytes) :=
  Restart.Console.boot softSite (softFiles []) (utf8 "def") (utf8 "params")

theorem camera_known : utf8 "camera-0" ∈ softConsole.world.objects.m_objects := by
  have kind := (boot_holds (softFiles_defines []) (utf8 "params")).kept.kinds (utf8 "camera-0")
  rw [← AList.lookup_isSome, ← Option.isSome_map (f := Device.kind)]
  exact kind ▸ tableOf_soft

/-- The value, in brackets. -/
theorem read50 : softSite.qt.fromJson (lbracket :: (utf8 "50" ++ [rbracket])) =
    some (.array [.int 50]) := by
  have text : lbracket :: (utf8 "50" ++ [rbracket]) =
      QtJson.reference.toJson .Compact (.array [.int 50]) := by decide +kernel
  rw [text]
  exact QtJson.reference.fromJson_of_holds .Compact rfl (by decide +kernel)

def interval50 : Bytes := utf8 "  camera-0.interval =  50"

theorem typed_exact_interval :
    handleInput softSite softConsole
        [.typed interval50, .typed (utf8 "exit"), .typed (utf8 "stop")] =
      (Restart.Console.step softSite softConsole
        (.set (utf8 "camera-0") (utf8 "interval") (.int 50))).1 := by
  have lines : Lines (V := Unit) (R := Bytes → Option Bytes)
      [.typed interval50, .typed (utf8 "exit"), .typed (utf8 "stop")] := by
    intro cmd there
    simp only [List.mem_cons, List.not_mem_nil, or_false, Input.typed.injEq] at there
    rcases there with rfl | rfl | rfl <;> decide +kernel
  have asked : Asks softSite softConsole interval50
      (.set (utf8 "camera-0") (utf8 "interval") (.int 50)) := by
    have spells : Spells (cString interval50) (utf8 "camera-0") (utf8 "interval")
        (equals :: utf8 "  50") :=
      ⟨by decide +kernel, by decide +kernel, utf8 "  ", utf8 " ", by decide +kernel,
        by decide +kernel, by decide +kernel⟩
    refine .value spells (by decide +kernel) (.inr camera_known) ?_
    have value : valueOf (utf8 "  50") = utf8 "50" := by decide +kernel
    rw [value]
    exact read50
  exact (typed_exact lines).2 _ (.asks asked (.ends (.inl rfl)))

end IsgConsole.BaseLib.CommandLine
