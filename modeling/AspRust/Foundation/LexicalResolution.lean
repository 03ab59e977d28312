import AspRust.Foundation.Path

/-!
# Resolving `..` in a path

Read from left to right, `..` takes back the last name, and where no name is left it
climbs above the place the path starts from.  `climb` keeps both parts: how far a path
climbs, and the names below the place it climbs to.  The names do not depend on how far
the path climbed before them, so from a file system root, above which nothing stands,
they alone are where the path leads.
-/

namespace AspRust.Foundation

/-- Where a path leads: some steps up from where it starts, then down along names. -/
structure Climb where
  ups : ℕ
  names : List String
deriving DecidableEq, Repr

namespace Climb

/-- One more component. -/
def step (climb : Climb) : Component → Climb
  | .parent => if climb.names = [] then ⟨climb.ups + 1, []⟩ else ⟨climb.ups, climb.names.dropLast⟩
  | .normal name => ⟨climb.ups, climb.names ++ [name]⟩

end Climb

namespace Path

/-- Where a path leads. -/
def climb (path : Path) : Climb := path.foldl Climb.step ⟨0, []⟩

theorem climb_concat (path : Path) (component : Component) :
    climb (path ++ [component]) = (climb path).step component := by
  simp [climb]

/-- The names of a path without `..` are the path. -/
theorem climb_map_normal (names : List String) :
    climb (names.map Component.normal) = ⟨0, names⟩ := by
  induction names using List.reverseRecOn with
  | nil => rfl
  | append_singleton rest last ih =>
      rw [List.map_append, List.map_singleton, climb_concat, ih]
      rfl

/-- Where a path leads that goes on from another one: the second part first takes back
names of the first, and climbs with what is left. -/
theorem climb_append (first second : Path) :
    climb (first ++ second) =
      ⟨(climb first).ups + ((climb second).ups - (climb first).names.length),
        (climb first).names.take ((climb first).names.length - (climb second).ups) ++
          (climb second).names⟩ := by
  induction second using List.reverseRecOn with
  | nil => simp [climb]
  | append_singleton rest last ih =>
      rw [← List.append_assoc, climb_concat, climb_concat, ih]
      cases last with
      | normal name => simp [Climb.step]
      | parent =>
          by_cases hnames : (climb rest).names = []
          · -- nothing of the second part is left to take back
            by_cases hall : (climb first).names.length ≤ (climb rest).ups
            · have hnone : (climb first).names.length - (climb rest).ups = 0 := by omega
              have hnone' : (climb first).names.length - ((climb rest).ups + 1) = 0 := by omega
              simp only [Climb.step, hnames, hnone, hnone', List.take_zero,
                if_true, List.append_nil, Climb.mk.injEq, and_true]
              omega
            · have htake : (climb first).names.take
                  ((climb first).names.length - (climb rest).ups) ≠ [] := by
                intro hempty
                have hlength := congrArg List.length hempty
                simp only [List.length_take, List.length_nil] at hlength
                omega
              simp only [Climb.step, hnames, List.append_nil, htake, if_false, if_true,
                Climb.mk.injEq]
              refine ⟨by omega, ?_⟩
              rw [List.dropLast_eq_take, List.take_take, List.length_take]
              congr 1
              omega
          · have hboth : (climb first).names.take
                ((climb first).names.length - (climb rest).ups) ++ (climb rest).names ≠ [] := by
              simp [hnames]
            simp only [Climb.step, hnames, hboth, if_false]
            rw [List.dropLast_append_of_ne_nil hnames]

end Path

end AspRust.Foundation
