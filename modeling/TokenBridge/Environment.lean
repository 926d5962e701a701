import TokenBridge.Table

/-!
# Environments

An `Environment` holds the named texts that a program is set up with. `offer` adds one
that is not there yet, so what was set before wins.
-/

namespace TokenBridge

abbrev Environment := Table String String

namespace Environment

/-- Sets a variable that has no value. -/
def offer (env : Environment) (name value : String) : Environment :=
  match env.get? name with
  | some _ => env
  | none => env.set name value

theorem get?_offer (env : Environment) (name value other : String) :
    (env.offer name value).get? other =
      if name = other then some ((env.get? name).getD value) else env.get? other := by
  unfold offer
  split
  · rename_i v h
    by_cases hn : name = other
    · subst hn; simp [h]
    · simp [hn]
  · rename_i h
    simp [Table.get?_set, h]

end Environment

end TokenBridge
