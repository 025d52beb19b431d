/-!
# ASCII letters

Comparison of texts up to the case of ASCII letters.
-/

namespace TableAtlas.Text

/-- Equality of texts up to the case of the letters `A` to `Z`. -/
def eqIgnoringCase (s t : String) : Bool :=
  s.toList.map Char.toLower == t.toList.map Char.toLower

@[simp] theorem eqIgnoringCase_self (s : String) : eqIgnoringCase s s := by
  simp [eqIgnoringCase]

theorem eqIgnoringCase_congr {s t : String} (h : eqIgnoringCase s t) (u : String) :
    eqIgnoringCase s u = eqIgnoringCase t u := by
  simp only [eqIgnoringCase, beq_iff_eq] at *
  rw [h]

end TableAtlas.Text
