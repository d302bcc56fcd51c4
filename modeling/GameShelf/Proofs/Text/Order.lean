import GameShelf.Text.Fold

/-!
# The orders of texts

Texts are compared byte by byte, as they are or up to letter case. Both comparisons are total
preorders, and the first one takes no two texts for equal: the bytes of a text determine it.
-/

namespace GameShelf

/-- Things are in a total preorder when they are compared by something that is in one. -/
theorem transCmp_on {α β : Type} (cmp : β → β → Ordering) [Std.TransCmp cmp] (f : α → β) :
    Std.TransCmp fun a b ↦ cmp (f a) (f b) where
  eq_swap := Std.OrientedCmp.eq_swap
  isLE_trans := Std.TransCmp.isLE_trans

namespace Text

theorem utf8_injective {a b : String} (h : utf8 a = utf8 b) : a = b := by
  have hbytes : a.toList.utf8Encode = b.toList.utf8Encode := congrArg List.toByteArray h
  rw [← String.toByteArray_ofList, ← String.toByteArray_ofList, String.ofList_toList,
    String.ofList_toList] at hbytes
  exact String.toByteArray_inj.1 hbytes

instance : Std.TransCmp compareBytes :=
  transCmp_on (List.compareLex compare) utf8

instance : Std.LawfulEqCmp compareBytes where
  compare_self := Std.ReflCmp.compare_self
  eq_of_compare {a b} h := by
    unfold compareBytes at h
    exact utf8_injective (Std.LawfulEqCmp.eq_of_compare h)

instance : Std.TransCmp compareFold :=
  transCmp_on (List.compareLex compare) fun s ↦ (utf8 s).map foldByte

end Text

end GameShelf
