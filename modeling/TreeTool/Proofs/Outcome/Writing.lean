import TreeTool.Outcome.Writer

/-!
# What a writer of limited room holds

Offering bytes again and again comes to one offer: the writer takes as many of them as there is room
for, from the front, whatever its stride. A stride is asked at a room that shrinks with every
write, so strides stand for all ways of splitting. One part after the other is one offer of them
all, because a part that does not fit leaves no room.
-/

namespace TreeTool

open Text (Bytes)

namespace Outcome

def streamBytes (ending : Bytes) : Option String → Bytes
  | none => []
  | some s => Text.Utf8.encode s.toList ++ ending

def newline : Bytes := [10]

/-- All bytes of a rendering. -/
def rendered (o : Outcome) : Rendering → Bytes
  | .lines => streamBytes newline o.stdout ++ streamBytes newline o.stderr
  | .bare .both => streamBytes [] o.stdout ++ streamBytes [] o.stderr
  | .bare .stdout => streamBytes [] o.stdout
  | .bare .stderr => streamBytes [] o.stderr

/-- What is left behind by writing an outcome to a writer. -/
structure Fills (o : Outcome) (r : Rendering) (w : Writer) : Prop where
  written : (o.writeTo r w).1.written =
    w.written ++ (o.rendered r).take (min w.room (o.rendered r).length)
  succeeds : (o.writeTo r w).2 = .ok () ↔ (o.rendered r).length ≤ w.room
  fails : (o.writeTo r w).2 = .error .writeZero ↔ w.room < (o.rendered r).length
  lines : r = .lines → w.room < (streamBytes newline o.stdout).length →
    (o.writeTo r w).1.written = w.written ++ (streamBytes newline o.stdout).take w.room
  both : r = .bare .both → w.room < (streamBytes [] o.stdout).length →
    (o.writeTo r w).1.written = w.written ++ (streamBytes [] o.stdout).take w.room

end Outcome

/-! ## One offer -/

namespace Writer

variable {w : Writer}

def filled (w : Writer) (bs : Bytes) : Writer :=
  { w with room := w.room - bs.length, written := w.written ++ bs.take w.room }

theorem takes_le (w : Writer) (n : Nat) : w.takes n ≤ n ∧ w.takes n ≤ w.room := by
  rw [takes]
  omega

theorem filled_accept (w : Writer) (bs : Bytes) :
    (w.accept bs).filled (bs.drop (w.takes bs.length)) = w.filled bs := by
  obtain ⟨hlen, hroom⟩ := w.takes_le bs.length
  have hsplit : bs.take (w.takes bs.length) ++
      (bs.drop (w.takes bs.length)).take (w.room - w.takes bs.length) = bs.take w.room := by
    rw [← List.take_add, Nat.add_sub_cancel' hroom]
  have hleft : w.room - w.takes bs.length - (bs.length - w.takes bs.length) =
      w.room - bs.length := by
    omega
  simp only [filled, accept, List.length_drop, List.append_assoc, hsplit, hleft]

theorem put_eq (w : Writer) (bs : Bytes) :
    w.put bs = (w.filled bs, decide (bs.length ≤ w.room)) := by
  induction w, bs using put.induct with
  | case1 w => simp [put, filled]
  | case2 w bs hne hroom =>
    have hlen := List.length_pos_iff.mpr hne
    have hno : ¬ bs.length ≤ w.room := by omega
    have hfull : w.filled bs = w := by
      cases w with
      | mk room written stride =>
        obtain rfl : room = 0 := hroom
        simp [filled]
    rw [put, dif_neg hne, dif_pos hroom, hfull, decide_eq_false hno]
  | case3 w bs hne hroom ih =>
    obtain ⟨hlen, hle⟩ := w.takes_le bs.length
    have hfits : bs.length - w.takes bs.length ≤ w.room - w.takes bs.length ↔
        bs.length ≤ w.room := by
      omega
    rw [put, dif_neg hne, dif_neg hroom, ih, filled_accept]
    simp only [accept, List.length_drop, hfits]

/-! ## One part after the other -/

def partBytes (ss : List String) : Bytes := ss.flatMap fun s => Text.Utf8.encode s.toList

theorem filled_filled {bs : Bytes} (h : bs.length ≤ w.room) (cs : Bytes) :
    (w.filled bs).filled cs = w.filled (bs ++ cs) := by
  have htake : bs.take w.room = bs := List.take_of_length_le h
  have hleft : w.room - bs.length - cs.length = w.room - (bs.length + cs.length) := by omega
  simp only [filled, htake, hleft, List.length_append, List.append_assoc, List.take_append]

theorem filled_append_of_lt {bs : Bytes} (h : w.room < bs.length) (cs : Bytes) :
    w.filled (bs ++ cs) = w.filled bs := by
  have hcs : cs.take (w.room - bs.length) = [] := by
    rw [Nat.sub_eq_zero_of_le (Nat.le_of_lt h), List.take_zero]
  have hleft : w.room - (bs.length + cs.length) = w.room - bs.length := by omega
  simp only [filled, List.length_append, hleft, List.take_append, hcs, List.append_nil]

theorem putAll_eq (w : Writer) (ss : List String) :
    w.putAll ss = (w.filled (partBytes ss), decide ((partBytes ss).length ≤ w.room)) := by
  induction ss generalizing w with
  | nil => simp [putAll, partBytes, filled]
  | cons s ss ih =>
    have hcons : partBytes (s :: ss) = Text.Utf8.encode s.toList ++ partBytes ss := rfl
    rw [putAll, put_eq, hcons]
    by_cases hfits : (Text.Utf8.encode s.toList).length ≤ w.room
    · have hrest : (partBytes ss).length ≤ (w.filled (Text.Utf8.encode s.toList)).room ↔
          (Text.Utf8.encode s.toList ++ partBytes ss).length ≤ w.room := by
        simp only [filled, List.length_append]
        omega
      simp only [hfits, decide_true, ih, filled_filled hfits, hrest]
    · have hlt : w.room < (Text.Utf8.encode s.toList).length := by omega
      have hno : ¬ (Text.Utf8.encode s.toList ++ partBytes ss).length ≤ w.room := by
        rw [List.length_append]
        omega
      simp only [hfits, decide_false, filled_append_of_lt hlt, hno]

end Writer

/-! ## An outcome -/

namespace Outcome

variable {w : Writer}

theorem partBytes_parts (o : Outcome) (r : Rendering) :
    Writer.partBytes (r.parts o) = o.rendered r := by
  have hbare : ∀ stream, Writer.partBytes (bare stream) = streamBytes [] stream := by
    intro stream
    cases stream <;> simp [bare, Writer.partBytes, streamBytes]
  have hlined : ∀ stream, Writer.partBytes (lined stream) = streamBytes newline stream := by
    intro stream
    cases stream <;> rfl
  have happend : ∀ ss ts, Writer.partBytes (ss ++ ts) =
      Writer.partBytes ss ++ Writer.partBytes ts := fun ss ts => List.flatMap_append
  cases r with
  | lines => rw [Rendering.parts, printed, happend, hlined, hlined, rendered]
  | bare p =>
    cases p with
    | both =>
      rw [Rendering.parts, Part.parts, written, happend, hbare, hbare, rendered]
    | stdout => exact hbare o.stdout
    | stderr => exact hbare o.stderr

theorem writeTo_eq (o : Outcome) (r : Rendering) (w : Writer) :
    o.writeTo r w = (w.filled (o.rendered r),
      if (o.rendered r).length ≤ w.room then .ok () else .error .writeZero) := by
  rw [writeTo, Writer.putAll_eq, partBytes_parts]
  by_cases h : (o.rendered r).length ≤ w.room
  · simp [h]
  · simp [h]

/-- Every writer ends up with the front of a rendering that there is room for, and writing it fails
exactly if that is not all of it. -/
theorem fills (o : Outcome) (r : Rendering) (w : Writer) : o.Fills r w where
  written := by
    rw [writeTo_eq, Writer.filled, ← List.take_eq_take_min]
  succeeds := by
    rw [writeTo_eq]
    split <;> simp_all
  fails := by
    rw [writeTo_eq]
    split <;> simp_all
  lines hr hlt := by
    subst hr
    rw [writeTo_eq, rendered, Writer.filled_append_of_lt hlt, Writer.filled]
  both hr hlt := by
    subst hr
    rw [writeTo_eq, rendered, Writer.filled_append_of_lt hlt, Writer.filled]

end Outcome

end TreeTool
