import StyleTypings.Disk.Lookup
import StyleTypings.Proofs.Text.Encoding

namespace StyleTypings.Text

open Disk (slash)

def encodeChars (cs : List Char) : Bytes := cs.flatMap String.utf8EncodeChar

theorem encode_ofList (cs : List Char) : encode (String.ofList cs) = encodeChars cs := by
  rw [encode_eq, String.toByteArray_ofList, List.utf8Encode, List.data_toByteArray, encodeChars]

theorem encode_eq_encodeChars (text : String) : encode text = encodeChars text.toList := by
  rw [← encode_ofList, String.ofList_toList]

@[simp] theorem encodeChars_nil : encodeChars [] = [] := rfl

@[simp] theorem encodeChars_cons (c : Char) (cs : List Char) :
    encodeChars (c :: cs) = String.utf8EncodeChar c ++ encodeChars cs := rfl

theorem encodeChars_append (a b : List Char) :
    encodeChars (a ++ b) = encodeChars a ++ encodeChars b :=
  List.flatMap_append

theorem ofNat_eq_slash {n : Nat} (hn : n < 256) (h : slash = UInt8.ofNat n) : n = 47 := by
  have he := congrArg UInt8.toNat h
  rw [UInt8.toNat_ofNat_of_lt' hn] at he
  exact he.symm

theorem eq_slash_of_mem {c : Char} (h : slash ∈ String.utf8EncodeChar c) : c = '/' := by
  unfold String.utf8EncodeChar at h
  dsimp only at h
  split at h
  next hone =>
    have he := ofNat_eq_slash (by omega) (List.mem_singleton.1 h)
    exact Char.toNat_inj.1 he
  next =>
    -- The bytes of the longer forms have their first bit set.
    split at h
    next =>
      simp only [List.mem_cons, List.not_mem_nil, or_false] at h
      rcases h with h | h <;> have := ofNat_eq_slash (by omega) h <;> omega
    next =>
      split at h <;> simp only [List.mem_cons, List.not_mem_nil, or_false] at h
      · rcases h with h | h | h <;> have := ofNat_eq_slash (by omega) h <;> omega
      · rcases h with h | h | h | h <;> have := ofNat_eq_slash (by omega) h <;> omega

theorem exists_of_encodeChars_eq {cs : List Char} {u v : Bytes}
    (h : encodeChars cs = u ++ slash :: v) :
    ∃ a b, cs = a ++ '/' :: b ∧ u = encodeChars a ∧ v = encodeChars b := by
  have hslash : String.utf8EncodeChar '/' = [slash] := by decide
  induction cs generalizing u with
  | nil => simp at h
  | cons c cs ih =>
    rw [encodeChars_cons] at h
    rcases List.append_eq_append_iff.1 h with ⟨m, rfl, hm⟩ | ⟨m, hc, hm⟩
    · obtain ⟨a, b, rfl, rfl, rfl⟩ := ih hm
      exact ⟨c :: a, b, rfl, rfl, rfl⟩
    · cases m with
      | nil =>
        obtain ⟨a, b, rfl, ha, rfl⟩ := ih (u := []) (by simpa using hm.symm)
        refine ⟨c :: a, b, rfl, ?_, rfl⟩
        rw [encodeChars_cons, ← ha, hc]
        simp
      | cons s m =>
        obtain ⟨rfl, rfl⟩ := List.cons.inj hm
        obtain rfl := eq_slash_of_mem (hc ▸ List.mem_append_right u (List.mem_cons_self ..))
        rw [hslash] at hc
        cases u with
        | nil =>
          obtain rfl : m = [] := by simpa using hc.symm
          exact ⟨[], cs, rfl, rfl, rfl⟩
        | cons b u => simp at hc

end StyleTypings.Text
