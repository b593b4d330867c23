/-!
# Tables

A table is a function from keys to entries. `assign` replaces one entry; every other entry stays.
-/

namespace DebugBridge

variable {κ α : Type}

/-- The table `f` with `v` as the entry of `k`. -/
def assign [DecidableEq κ] (f : κ → α) (k : κ) (v : α) : κ → α :=
  fun j => if j = k then v else f j

@[simp] theorem assign_same [DecidableEq κ] (f : κ → α) (k : κ) (v : α) : assign f k v k = v := by
  simp [assign]

@[simp] theorem assign_other [DecidableEq κ] {f : κ → α} {j k : κ} (v : α) (h : j ≠ k) :
    assign f k v j = f j := by
  simp [assign, h]

@[simp] theorem assign_assign [DecidableEq κ] (f : κ → α) (k : κ) (v w : α) :
    assign (assign f k v) k w = assign f k w := by
  funext j
  by_cases h : j = k <;> simp [assign, h]

@[simp] theorem assign_self [DecidableEq κ] (f : κ → α) (k : κ) : assign f k (f k) = f := by
  funext j
  by_cases h : j = k <;> simp [assign, h]

end DebugBridge
