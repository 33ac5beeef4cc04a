import StyleTypings.Text.Utf8

namespace StyleTypings.Text

theorem toList_loop (bytes : ByteArray) (i : Nat) (r : Bytes) :
    ByteArray.toList.loop bytes i r = r.reverse ++ bytes.data.toList.drop i := by
  fun_induction ByteArray.toList.loop bytes i r with
  | case1 i r hi ih =>
    have hlt : i < bytes.data.toList.length := by simpa using hi
    have hget : bytes.get! i = bytes.data.toList[i] := by
      have hib : i < bytes.data.size := hi
      show bytes.data[i]! = _
      rw [getElem!_pos bytes.data i hib, Array.getElem_toList]
    rw [ih, List.drop_eq_getElem_cons hlt, hget, List.reverse_cons, List.append_assoc,
      List.singleton_append]
  | case2 i r hi =>
    have hle : bytes.data.toList.length ≤ i := by simpa using hi
    rw [List.drop_eq_nil_of_le hle, List.append_nil]

theorem encode_eq (text : String) : encode text = text.toByteArray.data.toList := by
  simp [encode, ByteArray.toList, toList_loop]

theorem encode_append (a b : String) : encode (a ++ b) = encode a ++ encode b := by
  simp [encode_eq, String.toByteArray_append]

theorem encode_injective {a b : String} (h : encode a = encode b) : a = b := by
  rw [encode_eq, encode_eq, Array.toList_inj] at h
  exact String.toByteArray_inj.1 (ByteArray.ext h)

theorem decode?_eq_some_iff {bytes : Bytes} {text : String} :
    decode? bytes = some text ↔ encode text = bytes := by
  constructor
  · intro h
    unfold decode? String.fromUTF8? at h
    split at h
    · cases h
      rw [encode_eq]
      rfl
    · cases h
  · rintro rfl
    have hbytes : (⟨(encode text).toArray⟩ : ByteArray) = text.toByteArray := by
      rw [encode_eq]
    unfold decode? String.fromUTF8?
    rw [hbytes, dif_pos text.isValidUTF8]
    rfl

end StyleTypings.Text
