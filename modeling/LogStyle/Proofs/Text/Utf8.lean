import LogStyle.Text.Utf8

/-! # Bytes that are no text

Text is passed on by blocks, so what comes before a fault may be read without it. Of bytes that are fewer than the first
two blocks nothing is passed on, and the fault is all that is seen of them.
-/

namespace LogStyle

namespace Text

theorem length_unifyLineEnds_le (t : Text) : (unifyLineEnds t).length ≤ t.length := by
  induction t using unifyLineEnds.induct with
  | case1 => exact Nat.le_refl 0
  | case2 rest ih | case3 rest _ ih =>
      simp only [unifyLineEnds, List.length_cons]
      omega
  | case4 c rest _ _ ih =>
      simp only [unifyLineEnds, List.length_cons]
      omega

end Text

namespace Utf8

theorem length_text_decodeFrom_le (offset : Nat) (bytes : List UInt8) :
    (decodeFrom offset bytes).text.length ≤ bytes.length := by
  induction offset, bytes using decodeFrom.induct with
  | case1 => simp [decodeFrom]
  | case2 offset b rest noLead => simp [decodeFrom, noLead]
  | case3 offset b rest lead found good few ends =>
      rw [decodeFrom, found]
      simp only [good] at few ends
      simp only [few, ends, if_true]
      exact Nat.zero_le _
  | case4 offset b rest lead found good few goesOn =>
      rw [decodeFrom, found]
      simp only [good] at few goesOn
      simp only [few, if_true, if_neg goesOn]
      exact Nat.zero_le _
  | case5 offset b rest lead found good enough ih =>
      rw [decodeFrom, found]
      simp only [good] at enough
      simp only [if_neg enough, List.length_cons]
      rw [List.length_drop] at ih
      omega

theorem length_afterPortion_le (p : Progress) (size : Nat) (decoded : Decoded) :
    (p.afterPortion size decoded).1.length + (p.afterPortion size decoded).2.held.length ≤
      p.held.length + decoded.text.length := by
  have held : (p.afterPortion size decoded).2.held.length ≤ (p.held ++ decoded.text).length := by
    simp only [Progress.afterPortion]
    split
    · next last => exact List.length_pos_of_mem (List.mem_of_getLast? last)
    · exact Nat.zero_le _
  have text : (p.afterPortion size decoded).1.length ≤
      ((p.held ++ decoded.text).take ((p.held ++ decoded.text).length -
        (p.afterPortion size decoded).2.held.length)).length :=
    Text.length_unifyLineEnds_le _
  rw [List.length_take] at text
  rw [List.length_append] at held text
  omega

theorem cutOff?_isSome {bytes : List UInt8} (begun : bytes ≠ []) : ∃ fault, cutOff? bytes = some fault := by
  cases bytes with
  | nil => exact absurd rfl begun
  | cons b rest =>
      simp only [cutOff?]
      split
      · exact ⟨_, rfl⟩
      · exact ⟨_, rfl⟩

theorem passedOn_eq_zero {count : Nat} (few : count < 2 * blockSize) : passedOn count = 0 :=
  if_pos few

theorem readFrom_of_undecodable {bytes : List UInt8} (few : bytes.length < 2 * blockSize)
    (undecodable : text? bytes = none) :
    ∃ fault, (readFrom {} bytes).fault = some fault ∧ (readFrom {} bytes).text.length ≤ bytes.length := by
  cases bytes with
  | nil => exact absurd undecodable (by simp [text?, decodeFrom])
  | cons b rest =>
      have size : Progress.nextSize {} = 2 * blockSize := rfl
      have whole : (b :: rest).take (Progress.nextSize {}) = b :: rest :=
        List.take_of_length_le (size ▸ Nat.le_of_lt few)
      have nothing : (b :: rest).drop (Progress.nextSize {}) = [] :=
        List.drop_of_length_le (size ▸ Nat.le_of_lt few)
      have short := length_text_decodeFrom_le 0 (b :: rest)
      rw [readFrom]
      simp only [whole, nothing, List.nil_append]
      cases found : (decodeFrom 0 (b :: rest)).fault with
      | some fault => exact ⟨fault, rfl, Nat.zero_le _⟩
      | none =>
          have begun : (decodeFrom 0 (b :: rest)).begun ≠ [] := by
            intro ended
            simp [text?, found, ended] at undecodable
          obtain ⟨fault, cut⟩ := cutOff?_isSome begun
          have passed := length_afterPortion_le {} (b :: rest).length (decodeFrom 0 (b :: rest))
          have last := Text.length_unifyLineEnds_le
            (Progress.afterPortion {} (b :: rest).length (decodeFrom 0 (b :: rest))).2.held
          rw [readFrom]
          refine ⟨fault, cut, ?_⟩
          simp only [List.length_append] at passed ⊢
          exact Nat.le_trans (Nat.add_le_add_left last _) (Nat.le_trans passed (by simpa using short))

theorem read_of_undecodable {bytes : List UInt8} (few : bytes.length < 2 * blockSize)
    (undecodable : text? bytes = none) : ∃ fault, read bytes = ⟨[], some fault⟩ := by
  obtain ⟨fault, found, short⟩ := readFrom_of_undecodable few undecodable
  refine ⟨fault, ?_⟩
  unfold read
  simp only [found, passedOn_eq_zero (Nat.lt_of_le_of_lt short few), List.take_zero]

end Utf8

end LogStyle
