/-
# ASCII letter case

Names of standards, addresses and file extensions are compared without regard to the case of
the twenty-six ASCII letters.  Every other character stands for itself.
-/

namespace TokenLaunch
namespace Text

/-- The text with its ASCII capital letters made small. -/
def lowerCase (s : String) : String :=
  String.ofList (s.toList.map Char.toLower)

@[simp] theorem toList_lowerCase (s : String) :
    (lowerCase s).toList = s.toList.map Char.toLower := by
  simp [lowerCase]

/-- Whether two texts are equal up to the case of ASCII letters. -/
def sameIgnoringCase (s t : String) : Bool :=
  decide (s.toList.map Char.toLower = t.toList.map Char.toLower)

theorem sameIgnoringCase_iff {s t : String} :
    sameIgnoringCase s t = true ↔ lowerCase s = lowerCase t := by
  simp [sameIgnoringCase, ← String.toList_inj]

@[simp] theorem sameIgnoringCase_refl (s : String) : sameIgnoringCase s s = true := by
  simp [sameIgnoringCase]

end Text
end TokenLaunch
