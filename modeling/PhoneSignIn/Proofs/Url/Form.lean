import PhoneSignIn.Proofs.Text.Utf8
import PhoneSignIn.Url.Form

/-!
Forms are read back. Each octet of a name or a value is written as marks that stand for that octet alone,
whatever follows them (`decode_octet`); no mark that parts names from values, or pairs from pairs, is among
them (`encodeText_apart`). So a form's text is read as exactly the pairs that it was written for
(`decode_encode`), and different pairs have different texts.
-/
namespace PhoneSignIn.Url

open PhoneSignIn.Text

/-! ### Percent-encoded octets -/

namespace Percent

variable {rest : List Char}

/-- Any character but a percent sign stands for its own octets. -/
theorem decode_char {c : Char} (other : c ≠ '%') : decode (c :: rest) = String.utf8EncodeChar c ++ decode rest := by
  rw [decode]
  intro a b r percent
  exact absurd percent other

/-- A percent sign and the digits of an octet stand for that octet. -/
theorem decode_triplet (b : UInt8) : decode (triplet b ++ rest) = b :: decode rest := by
  have small : b.toNat < 256 := b.toNat_lt
  have octet : octet? (Hex.upper (b.toNat / 16)) (Hex.upper (b.toNat % 16)) = some b := by
    rw [octet?,Hex.value?_upper _ (by omega),Hex.value?_upper _ (by omega)]
    have whole : b.toNat / 16 * 16 + b.toNat % 16 = b.toNat := by omega
    exact congrArg some ((congrArg UInt8.ofNat whole).trans b.ofNat_toNat)
  change decode ('%' :: _ :: _ :: rest) = _
  rw [decode,octet]

end Percent

namespace Form

/-! ### Octets -/

/-- A plain octet is the one octet of its character, which is no mark of a form. -/
theorem plain_char {b : UInt8} (plain : isPlain b = true) :
    String.utf8EncodeChar (Char.ofNat b.toNat) = [b] ∧ Char.ofNat b.toNat ∉ ['%','+','&','='] := by
  have all : ∀ n < 256, isPlain (.ofNat n) = true →
      String.utf8EncodeChar (Char.ofNat n) = [.ofNat n] ∧ Char.ofNat n ∉ ['%','+','&','='] := by decide +kernel
  simpa using all b.toNat b.toNat_lt (by simpa using plain)

/-- No digit of an octet is a mark of a form. -/
theorem upper_apart : ∀ n < 16, Hex.upper n ∉ ['%','+','&','='] := by decide

/-- An octet is read back, whatever follows it. -/
theorem decode_octet (b : UInt8) (rest : List Char) :
    Percent.decode ((encodeOctet b ++ rest).map fun c => if c = '+' then ' ' else c) =
      b :: Percent.decode (rest.map fun c => if c = '+' then ' ' else c) := by
  rw [encodeOctet]
  split_ifs with plain space
  · obtain ⟨octets,apart⟩ := plain_char plain
    simp only [List.mem_cons,List.not_mem_nil,or_false,not_or] at apart
    rw [List.singleton_append,List.map_cons,if_neg apart.2.1,Percent.decode_char apart.1,octets]
    rfl
  · subst space
    rw [List.singleton_append,List.map_cons,if_pos rfl,Percent.decode_char (by decide)]
    rfl
  · have small : b.toNat < 256 := b.toNat_lt
    have high := upper_apart (b.toNat / 16) (by omega)
    have low := upper_apart (b.toNat % 16) (by omega)
    simp only [List.mem_cons,List.not_mem_nil,or_false,not_or] at high low
    have same : (Percent.triplet b).map (fun c => if c = '+' then ' ' else c) = Percent.triplet b := by
      simp [Percent.triplet,high.2.1,low.2.1]
    rw [List.map_append,same,Percent.decode_triplet]

theorem encodeOctet_apart (b : UInt8) : '&' ∉ encodeOctet b ∧ '=' ∉ encodeOctet b := by
  rw [encodeOctet]
  split_ifs with plain space
  · have apart := (plain_char plain).2
    simp only [List.mem_cons,List.not_mem_nil,or_false,not_or] at apart ⊢
    exact ⟨Ne.symm apart.2.2.1,Ne.symm apart.2.2.2⟩
  · decide
  · have small : b.toNat < 256 := b.toNat_lt
    have high := upper_apart (b.toNat / 16) (by omega)
    have low := upper_apart (b.toNat % 16) (by omega)
    simp only [Percent.triplet,List.mem_cons,List.not_mem_nil,or_false,not_or] at high low ⊢
    exact ⟨⟨by decide,Ne.symm high.2.2.1,Ne.symm low.2.2.1⟩,by decide,Ne.symm high.2.2.2,Ne.symm low.2.2.2⟩

/-! ### Names and values -/

/-- A name or a value has no mark that would part it. -/
theorem encodeText_apart (s : String) : '&' ∉ encodeText s ∧ '=' ∉ encodeText s := by
  simp only [encodeText,List.mem_flatMap,not_exists,not_and]
  exact ⟨fun b _ => (encodeOctet_apart b).1,fun b _ => (encodeOctet_apart b).2⟩

/-- A name or a value is read back. -/
theorem decodeText_encodeText (s : String) : decodeText (encodeText s) = s := by
  have octets (bytes : List UInt8) :
      Percent.decode ((bytes.flatMap encodeOctet).map fun c => if c = '+' then ' ' else c) = bytes := by
    induction bytes with
    | nil => rfl
    | cons b bytes ih => rw [List.flatMap_cons,decode_octet,ih]
  rw [decodeText,encodeText,octets,Utf8.decodeLossy_encode]

/-! ### Forms -/

/-- A pair is cut where its name ends. -/
theorem decodePair_encodePair (p : String × String) : decodePair (encodePair p) = p := by
  have name : ∀ c ∈ encodeText p.1, (decide (c ≠ '=')) = true := by
    intro c member
    rw [decide_eq_true_eq]
    rintro rfl
    exact (encodeText_apart p.1).2 member
  have taken : (encodePair p).takeWhile (· ≠ '=') = encodeText p.1 := by
    rw [encodePair,List.takeWhile_append_of_pos name,List.takeWhile_cons_of_neg (by simp),List.append_nil]
  have left : (encodePair p).dropWhile (· ≠ '=') = '=' :: encodeText p.2 := by
    rw [encodePair,List.dropWhile_append_of_pos name,List.dropWhile_cons_of_neg (by simp)]
  rw [decodePair,taken,left,List.drop_one,List.tail_cons,decodeText_encodeText,decodeText_encodeText]

/-- The text of a form is read as the pairs that it was written for. -/
theorem decode_encode (pairs : List (String × String)) : decode (encode pairs) = pairs := by
  have whole : ∀ l ∈ pairs.map encodePair, '&' ∉ l ∧ l ≠ [] := by
    intro l member
    obtain ⟨p,-,rfl⟩ := List.mem_map.mp member
    simp [encodePair,encodeText_apart]
  rw [decode,encode,String.toList_ofList]
  cases pairs with
  | nil => rfl
  | cons p pairs =>
    rw [List.splitOn_intercalate '&' (fun l member => (whole l member).1) (by simp),
      List.filter_eq_self.mpr fun l member => by simpa using (whole l member).2,List.map_map]
    exact List.map_id'' decodePair_encodePair _

/-- Different pairs have different texts. -/
theorem encode_injective : Function.Injective encode := Function.LeftInverse.injective decode_encode

end Form

end PhoneSignIn.Url
