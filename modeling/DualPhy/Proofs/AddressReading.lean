import DualPhy.Proofs.PayloadText
import Mathlib.Data.List.DropRight
import Mathlib.Data.List.TakeWhile

/-!
# Reading addresses

The address of a handler does not depend on how many slashes its base ends with. What it keeps of
the base does not end with one, and a single one follows. Read from both ends, an address gives the
identifier of the block and the number of the handler back: the base ends before the first part,
and whatever the identifier contains, the number stands between the last two slashes.
-/

namespace DualPhy

/-! ## Slashes at the end of a base -/

/-- A number of slashes. -/
def slashes (count : Nat) : String := String.ofList (List.replicate count '/')

@[simp] theorem toList_slashes (count : Nat) :
    (slashes count).toList = List.replicate count '/' := String.toList_ofList

@[simp] theorem withoutTrailingSlashes_append (text : List Char) (count : Nat) :
    withoutTrailingSlashes (text ++ List.replicate count '/') = withoutTrailingSlashes text := by
  have onlySlashes : ∀ letter ∈ List.replicate count '/', (letter == '/') = true := by
    intro letter member
    rw [List.eq_of_mem_replicate member, beq_self_eq_true]
  rw [withoutTrailingSlashes, List.reverse_append, List.reverse_replicate,
    List.dropWhile_append_of_pos onlySlashes, withoutTrailingSlashes]

/-- Nothing but slashes is taken from the end of a text. -/
theorem exists_slashes (text : List Char) :
    ∃ count, text = withoutTrailingSlashes text ++ List.replicate count '/' := by
  refine ⟨(text.reverse.takeWhile (· == '/')).length, ?_⟩
  have taken : text.reverse.takeWhile (· == '/') =
      List.replicate (text.reverse.takeWhile (· == '/')).length '/' := by
    refine List.eq_replicate_iff.mpr ⟨rfl, fun letter member => ?_⟩
    exact eq_of_beq (List.mem_takeWhile_imp (p := (· == '/')) member)
  rw [← List.reverse_inj, withoutTrailingSlashes, List.reverse_append, List.reverse_replicate,
    List.reverse_reverse, ← taken, List.takeWhile_append_dropWhile]

/-- All of them are. -/
theorem getLast?_withoutTrailingSlashes_ne (text : List Char) :
    (withoutTrailingSlashes text).getLast? ≠ some '/' := by
  intro slash
  have first := List.head?_dropWhile_not (· == '/') text.reverse
  rw [withoutTrailingSlashes, List.getLast?_reverse] at slash
  rw [slash] at first
  cases first

theorem callUrl_append_slashes (base : String) (count : Nat) (id : String) (index : UInt32) :
    callUrl (base ++ slashes count) id index = callUrl base id index := by
  simp [callUrl, callUrlChars]

/-! ## Reading an address -/

/-- The identifier and the number in an address under a base address. The number is looked for
from the end, as the identifier may contain slashes. -/
def readHandler? (base url : String) : Option (String × UInt32) := do
  let path ← url.toList.dropPrefix? (withoutTrailingSlashes base.toList ++ "/block/".toList)
  let path ← path.dropSuffix? ['/']
  let id ← (path.rdropWhile (· != '/')).dropSuffix? "/call/".toList
  let index ← Decimal.naturalBelow? UInt32.size (path.rtakeWhile (· != '/'))
  return (String.ofList id, .ofNat index)

/-- A text is taken apart at its last separator. -/
theorem parts_of_last_separator
    [DecidableEq α]
    {separator : α}
    {back : List α}
    (last : separator ∉ back)
    (front : List α) :
    (front ++ separator :: back).rdropWhile (· != separator) = front ++ [separator] ∧
      (front ++ separator :: back).rtakeWhile (· != separator) = back := by
  have others : ∀ item ∈ back.reverse, (item != separator) = true := by
    intro item member
    rw [bne_iff_ne]
    rintro rfl
    exact last (List.mem_reverse.mp member)
  have reversed : (front ++ separator :: back).reverse =
      back.reverse ++ separator :: front.reverse := by simp
  rw [List.rdropWhile, List.rtakeWhile, reversed, List.dropWhile_append_of_pos others,
    List.takeWhile_append_of_pos others]
  simp

/-- An address is read as the handler that it is the address of. -/
theorem readHandler?_callUrl (base id : String) (index : UInt32) :
    readHandler? base (callUrl base id index) = some (id, index) := by
  let path := id.toList ++ "/call".toList ++ '/' :: Decimal.digitChars index.toNat
  have url : (callUrl base id index).toList =
      (withoutTrailingSlashes base.toList ++ "/block/".toList) ++ (path ++ ['/']) := by
    simp [callUrl, callUrlChars, Decimal.digitChars, path]
  have behindBase : (callUrl base id index).toList.dropPrefix?
      (withoutTrailingSlashes base.toList ++ "/block/".toList) = some (path ++ ['/']) := by
    rw [url]
    exact List.dropPrefix?_append_of_beq _ BEq.rfl
  have noSlash : '/' ∉ Nat.toDigits 10 index.toNat := not_mem_toDigits (by decide) _
  obtain ⟨front, digits⟩ := parts_of_last_separator noSlash (id.toList ++ "/call".toList)
  have closing : id.toList ++ "/call".toList ++ ['/'] = id.toList ++ "/call/".toList := by
    rw [List.append_assoc]
    rfl
  have identifier : (path.rdropWhile (· != '/')).dropSuffix? "/call/".toList =
      some id.toList := by
    rw [show path.rdropWhile (· != '/') = _ from front.trans closing]
    exact dropSuffix?_append _ _
  have number : path.rtakeWhile (· != '/') = Decimal.digitChars index.toNat := digits
  simp only [readHandler?, behindBase, dropSuffix?_append, identifier, number,
    Payload.naturalBelow?_toNat, bind, Option.bind, String.ofList_toList, UInt32.ofNat_toNat]
  rfl

/-- The address of a handler is the same however many slashes its base ends with. It keeps a base
without a slash at its end, and one slash follows. Reading it under the base, or under one with
other slashes at its end, gives the identifier and the number back, so that no two handlers have
the same address. -/
theorem address_tells_handler
    (base : String)
    (more other : Nat)
    (id otherId : String)
    (index otherIndex : UInt32) :
    callUrl (base ++ slashes more) id index = callUrl base id index ∧
      (∃ kept count, base = kept ++ slashes count ∧ kept.toList.getLast? ≠ some '/' ∧
        callUrl base id index =
          kept ++ "/" ++ "block/" ++ id ++ "/call/" ++ toString index.toNat ++ "/") ∧
      readHandler? (base ++ slashes other) (callUrl (base ++ slashes more) id index) =
        some (id, index) ∧
      (callUrl (base ++ slashes more) id index =
          callUrl (base ++ slashes other) otherId otherIndex ↔
        id = otherId ∧ index = otherIndex) := by
  have unchanged := fun count => callUrl_append_slashes base count
  refine ⟨unchanged more id index, ?_, ?_, ?_⟩
  · obtain ⟨count, parted⟩ := exists_slashes base.toList
    refine ⟨String.ofList (withoutTrailingSlashes base.toList), count, ?_, ?_, ?_⟩
    · apply String.toList_injective
      simpa using parted
    · rw [String.toList_ofList]
      exact getLast?_withoutTrailingSlashes_ne base.toList
    · apply String.toList_injective
      simp [callUrl, callUrlChars]
  · rw [unchanged more, ← unchanged other]
    exact readHandler?_callUrl (base ++ slashes other) id index
  · exact callUrl_eq_iff (by simp) id otherId index otherIndex

/-- An identifier that looks like the end of an address is read as it is. -/
example : readHandler? "http://radio//" "http://radio/block/4/call/1//call/5/" =
    some ("4/call/1/", 5) := by
  decide +kernel

end DualPhy
