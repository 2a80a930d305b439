import Mathlib.Data.List.AList

/-! A table kept in another one: its keys are coded, and each value is stored as one
that stands for it. An injective code keeps the keys apart, so insertions and
look-ups can be done on either side. -/

namespace Libgate.Lib

variable {κ ν κ' ν' : Type} [DecidableEq κ] [DecidableEq κ']

/-- Under the code of each key the second table holds what stands for the value that
the first has, and nothing if it has none. -/
def Coded (code : κ → κ') (stands : ν → ν' → Prop) (t : AList fun _ : κ => ν)
    (t' : AList fun _ : κ' => ν') : Prop :=
  ∀ k, Option.Rel stands (t.lookup k) (t'.lookup (code k))

theorem Coded.insert {code : κ → κ'} {stands : ν → ν' → Prop} {t : AList fun _ : κ => ν}
    {t' : AList fun _ : κ' => ν'} {k : κ} (h : Coded code stands t t')
    (hcode : Function.Injective code) {v : ν} {v' : ν'} (hv : stands v v') :
    Coded code stands (t.insert k v) (t'.insert (code k) v') := by
  intro i
  by_cases hi : i = k
  · rw [hi, AList.lookup_insert, AList.lookup_insert]
    exact .some hv
  · rw [AList.lookup_insert_ne hi, AList.lookup_insert_ne fun he => hi (hcode he)]
    exact h i

end Libgate.Lib
