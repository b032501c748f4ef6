/-
# Theory.Framing — length-prefixed frames in a byte stream

A stream protocol cuts its bytes into frames: a fixed-width header, then as many
body bytes as the header announces.  The reference reading of a stream is greedy:
take the first complete frame, go on behind it, stop at the first position where
no complete frame starts.

* `Parsed bs fs t` — the greedy reading of `bs` is the frames `fs`, and `t` is the
  incomplete tail; `frames` computes it (`parsed_frames`), and it is unique
  (`Parsed.unique`).
* `Parsed.trans` — reading in two parts: the tail of the first part goes in front
  of the second.  This is why a receiver that keeps its tail does not depend on
  how the stream was cut.
* `frames_encodeFrames_iff` — a stream of frames is read back exactly when every
  announced length is the true one.
-/
import IsgConsole.Theory.Bytes

namespace IsgConsole.Theory.Framing

set_option autoImplicit false

variable {H : Type} (C : FixedCodec H) (len : H → Nat)

/-- A header and the body that followed it. -/
abbrev Frame (H : Type) := H × Bytes

/-! ## The next frame -/

/-- The frame that starts the stream and the bytes behind it, if it is complete. -/
def next? (bs : Bytes) : Option (Frame H × Bytes) :=
  match C.split? bs with
  | some (head, rest) =>
      if len head ≤ rest.length then
        some ((head, rest.take (len head)), rest.drop (len head))
      else none
  | none => none

/-- The frame is complete when its header is there and the announced body behind it. -/
theorem next?_of_fits {bs : Bytes} (enough : C.width ≤ bs.length)
    (fits : len (C.decode bs) ≤ bs.length - C.width) :
    next? C len bs = some ((C.decode bs, (bs.drop C.width).take (len (C.decode bs))),
      (bs.drop C.width).drop (len (C.decode bs))) := by
  simp only [next?, FixedCodec.split?, if_pos enough, List.length_drop, if_pos fits]

theorem next?_of_short {bs : Bytes}
    (short : C.width ≤ bs.length → bs.length - C.width < len (C.decode bs)) :
    next? C len bs = none := by
  by_cases enough : C.width ≤ bs.length
  · have unfit : ¬ len (C.decode bs) ≤ bs.length - C.width := Nat.not_le.mpr (short enough)
    simp only [next?, FixedCodec.split?, if_pos enough, List.length_drop, if_neg unfit]
  · simp only [next?, FixedCodec.split?, if_neg enough]

theorem next?_length {bs rest : Bytes} {f : Frame H} (found : next? C len bs = some (f, rest)) :
    bs.length = C.width + len f.1 + rest.length := by
  unfold next? at found
  split at found
  · rename_i head body read
    split at found
    · rename_i enough
      simp only [Option.some.injEq, Prod.mk.injEq] at found
      obtain ⟨rfl, rfl⟩ := found
      have total := FixedCodec.split?_length read
      simp only [List.length_drop]
      omega
    · cases found
  · cases found

/-- A complete frame stays the next frame when more bytes arrive. -/
theorem next?_append {bs rest : Bytes} {f : Frame H} (more : Bytes)
    (found : next? C len bs = some (f, rest)) :
    next? C len (bs ++ more) = some (f, rest ++ more) := by
  unfold next? FixedCodec.split? at found ⊢
  by_cases enough : C.width ≤ bs.length
  · have enough' : C.width ≤ (bs ++ more).length := by
      rw [List.length_append]
      omega
    simp only [if_pos enough] at found
    simp only [if_pos enough', C.decode_append _ _ enough,
      List.drop_append_of_le_length enough]
    split at found
    · rename_i fits
      have fits' : len (C.decode bs) ≤ (bs.drop C.width ++ more).length := by
        rw [List.length_append]
        omega
      simp only [Option.some.injEq, Prod.mk.injEq] at found
      obtain ⟨rfl, rfl⟩ := found
      rw [if_pos fits', List.take_append_of_le_length fits, List.drop_append_of_le_length fits]
    · cases found
  · simp only [if_neg enough] at found
    cases found

theorem next?_announced {bs rest : Bytes} {f : Frame H}
    (found : next? C len bs = some (f, rest)) : len f.1 = f.2.length := by
  unfold next? at found
  split at found
  · split at found
    · rename_i fits
      simp only [Option.some.injEq, Prod.mk.injEq] at found
      obtain ⟨rfl, -⟩ := found
      exact (List.length_take_of_le fits).symm
    · cases found
  · cases found

/-- What was cut off is the bytes that stood there. -/
theorem next?_concat {bs rest : Bytes} {f : Frame H}
    (found : next? C len bs = some (f, rest)) : C.encode f.1 ++ (f.2 ++ rest) = bs := by
  unfold next? FixedCodec.split? at found
  by_cases enough : C.width ≤ bs.length
  · simp only [if_pos enough] at found
    split at found
    · simp only [Option.some.injEq, Prod.mk.injEq] at found
      obtain ⟨rfl, rfl⟩ := found
      rw [List.take_append_drop, C.encode_decode_append enough]
    · cases found
  · simp only [if_neg enough] at found
    cases found

/-- A header whose announced length is that of the body in front of it. -/
theorem next?_encode (head : H) (body rest : Bytes) (exact : len head = body.length) :
    next? C len (C.encode head ++ (body ++ rest)) = some ((head, body), rest) := by
  have enough : body.length ≤ (body ++ rest).length := by
    rw [List.length_append]
    omega
  simp only [next?, FixedCodec.split?_encode_append, exact, if_pos enough, List.take_left,
    List.drop_left]

/-- The bytes of a list of frames. -/
def encodeFrames (fs : List (Frame H)) : Bytes := fs.flatMap fun f => C.encode f.1 ++ f.2

/-! ## The greedy reading -/

/-- `Parsed bs fs t`: read greedily from its start, `bs` is the complete frames
`fs` followed by the incomplete tail `t`. -/
inductive Parsed : Bytes → List (Frame H) → Bytes → Prop where
  | tail {bs : Bytes} (short : next? C len bs = none) : Parsed bs [] bs
  | frame {bs rest t : Bytes} {f : Frame H} {fs : List (Frame H)}
      (found : next? C len bs = some (f, rest)) (later : Parsed rest fs t) :
      Parsed bs (f :: fs) t

namespace Parsed

variable {C len}

theorem unique {bs t t' : Bytes} {fs fs' : List (Frame H)}
    (first : Parsed C len bs fs t) (second : Parsed C len bs fs' t') : fs = fs' ∧ t = t' := by
  induction first generalizing fs' with
  | tail short =>
      cases second with
      | tail _ => exact ⟨rfl, rfl⟩
      | frame found _ => rw [short] at found; cases found
  | frame found _ ih =>
      cases second with
      | tail short => rw [short] at found; cases found
      | frame found' later' =>
          rw [found] at found'
          simp only [Option.some.injEq, Prod.mk.injEq] at found'
          obtain ⟨rfl, rfl⟩ := found'
          obtain ⟨rfl, rfl⟩ := ih later'
          exact ⟨rfl, rfl⟩

/-- The tail holds no complete frame. -/
theorem tail_short {bs t : Bytes} {fs : List (Frame H)} (parsed : Parsed C len bs fs t) :
    next? C len t = none := by
  induction parsed with
  | tail short => exact short
  | frame _ _ ih => exact ih

/-- The frames and the tail are the whole stream: nothing is lost, nothing read twice. -/
theorem concat {bs t : Bytes} {fs : List (Frame H)} (parsed : Parsed C len bs fs t) :
    encodeFrames C fs ++ t = bs := by
  induction parsed with
  | tail _ => rfl
  | frame found _ ih =>
      rw [← next?_concat C len found, ← ih]
      simp [encodeFrames]

/-- Reading in two parts: what the first part leaves goes in front of the second. -/
theorem trans {bs more t u : Bytes} {fs gs : List (Frame H)}
    (first : Parsed C len bs fs t) (second : Parsed C len (t ++ more) gs u) :
    Parsed C len (bs ++ more) (fs ++ gs) u := by
  induction first with
  | tail _ => exact second
  | frame found _ ih => exact .frame (next?_append C len more found) (ih second)

/-- Every frame of a reading carries as many bytes as its header announces. -/
theorem announced {bs t : Bytes} {fs : List (Frame H)} (parsed : Parsed C len bs fs t) :
    ∀ f ∈ fs, len f.1 = f.2.length := by
  induction parsed with
  | tail _ =>
      intro f member
      cases member
  | frame found _ ih =>
      intro f member
      rcases List.mem_cons.mp member with rfl | later
      · exact next?_announced C len found
      · exact ih f later

end Parsed

/-- The greedy reading, computed.  Every frame takes at least its header, so the
length of the stream is fuel enough (`parsed_frames`). -/
def framesFuel : Nat → Bytes → List (Frame H) × Bytes
  | 0, bs => ([], bs)
  | n + 1, bs =>
      match next? C len bs with
      | some (f, rest) =>
          let r := framesFuel n rest
          (f :: r.1, r.2)
      | none => ([], bs)

def frames (bs : Bytes) : List (Frame H) × Bytes := framesFuel C len (bs.length + 1) bs

theorem parsed_framesFuel (wide : 0 < C.width) :
    ∀ (n : Nat) (bs : Bytes), bs.length < n →
      Parsed C len bs (framesFuel C len n bs).1 (framesFuel C len n bs).2
  | 0, _, enough => by omega
  | n + 1, bs, enough => by
      unfold framesFuel
      split
      · rename_i f rest found
        have total := next?_length C len found
        exact .frame found (parsed_framesFuel wide n rest (by omega))
      · rename_i short
        exact .tail short

theorem parsed_frames (wide : 0 < C.width) (bs : Bytes) :
    Parsed C len bs (frames C len bs).1 (frames C len bs).2 :=
  parsed_framesFuel C len wide _ bs (Nat.lt_succ_self _)

theorem frames_eq_iff (wide : 0 < C.width) {bs t : Bytes} {fs : List (Frame H)} :
    frames C len bs = (fs, t) ↔ Parsed C len bs fs t := by
  constructor
  · intro same
    have parsed := parsed_frames C len wide bs
    rwa [same] at parsed
  · intro parsed
    obtain ⟨sameFrames, sameTail⟩ := (parsed_frames C len wide bs).unique parsed
    exact Prod.ext sameFrames sameTail

/-! ## Streams that were written frame by frame -/

/-- Frames whose headers announce their bodies exactly are read back exactly. -/
theorem parsed_encodeFrames (wide : 0 < C.width) (fs : List (Frame H))
    (exact : ∀ f ∈ fs, len f.1 = f.2.length) : Parsed C len (encodeFrames C fs) fs [] := by
  induction fs with
  | nil =>
      refine .tail ?_
      have empty : ¬ C.width ≤ 0 := by omega
      simp [encodeFrames, next?, FixedCodec.split?, empty]
  | cons f fs ih =>
      have first : next? C len (encodeFrames C (f :: fs)) = some (f, encodeFrames C fs) := by
        simp only [encodeFrames, List.flatMap_cons, List.append_assoc]
        exact next?_encode C len f.1 f.2 _ (exact f (by simp))
      exact .frame first (ih fun g member => exact g (by simp [member]))

/-- **A stream of frames is read back exactly when every header tells the truth.** -/
theorem frames_encodeFrames_iff (wide : 0 < C.width) (fs : List (Frame H)) :
    frames C len (encodeFrames C fs) = (fs, []) ↔ ∀ f ∈ fs, len f.1 = f.2.length := by
  rw [frames_eq_iff C len wide]
  constructor
  · intro parsed
    exact parsed.announced
  · intro exact
    exact parsed_encodeFrames C len wide fs exact

end IsgConsole.Theory.Framing
