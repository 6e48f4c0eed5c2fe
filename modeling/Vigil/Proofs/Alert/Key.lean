import Vigil.Proofs.Alert.Naming

/-!
# Keys of alerts

The key under which PagerDuty takes alerts together is made of the category, the name and the
severity of an alert with hyphens in between. The name may hold hyphens too. The key tells its parts
apart all the same: the categories differ in their first letters and the severities in their last
ones, and what is left between these two is the name.
-/

namespace Vigil

theorem Category.eq_of_first {c c' : Category}
    (h : c.name.toList.head? = c'.name.toList.head?) : c = c' := by
  revert h
  cases c <;> cases c' <;> decide

theorem Severity.eq_of_last {v v' : Severity}
    (h : v.name.toList.getLast? = v'.name.toList.getLast?) : v = v' := by
  revert h
  cases v <;> cases v' <;> decide

namespace Binding

theorem toList_dedupKey (a : Alert) :
    (dedupKey a).toList =
      a.category.name.toList ++ '-' :: (a.name.toList ++ '-' :: a.severity.name.toList) := by
  rw [dedupKey, toList_hyphen, toList_hyphen, List.append_assoc, List.cons_append]

/-- A key begins like the category. -/
theorem head?_dedupKey (a : Alert) : (dedupKey a).toList.head? = a.category.name.toList.head? := by
  rw [toList_dedupKey]
  cases a.category <;> rfl

/-- A key ends like the severity. -/
theorem getLast?_dedupKey (a : Alert) :
    (dedupKey a).toList.getLast? = a.severity.name.toList.getLast? := by
  have hne : a.severity.name.toList ≠ [] := by cases a.severity <;> decide
  have hsplit : (dedupKey a).toList =
      (a.category.name.toList ++ '-' :: a.name.toList ++ ['-']) ++ a.severity.name.toList := by
    rw [toList_dedupKey]
    simp only [List.append_assoc, List.cons_append, List.nil_append]
  rw [hsplit, List.getLast?_append_of_ne_nil _ hne]

theorem dedupKey_injective : Function.Injective dedupKey := by
  intro a a' h
  have hcategory : a.category = a'.category :=
    Category.eq_of_first (by rw [← head?_dedupKey, h, head?_dedupKey])
  have hseverity : a.severity = a'.severity :=
    Severity.eq_of_last (by rw [← getLast?_dedupKey, h, getLast?_dedupKey])
  have hname : a.name = a'.name := (dedupKey_eq_iff hcategory hseverity).1 h
  obtain ⟨c, n, v⟩ := a
  obtain ⟨c', n', v'⟩ := a'
  obtain ⟨rfl, rfl, rfl⟩ : c = c' ∧ n = n' ∧ v = v' := ⟨hcategory, hname, hseverity⟩
  rfl

/-- The key of an alert tells all of it: what it is about, its name and its severity. -/
theorem dedupKey_determines (c c' : Category) (n n' : String) (v v' : Severity) :
    dedupKey ⟨c, n, v⟩ = dedupKey ⟨c', n', v'⟩ ↔ c = c' ∧ n = n' ∧ v = v' := by
  rw [dedupKey_injective.eq_iff, Alert.mk.injEq]

end Binding

end Vigil
