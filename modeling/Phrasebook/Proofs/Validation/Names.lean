import Phrasebook.Validation.Names

namespace Phrasebook.Validation

/-!
# What checked names guarantee

Accessors without problems have legal names, distinct from each other and from the members that
every generated type has, and so do the parameters of each.
-/

/-- An accessor name that can be used by itself. -/
structure IsAccessorName
    (name : String) :
    Prop where
  legal : Identifier.isLegal name
  unreserved : name ∉ reservedMembers

/-- An argument whose name can be that of a parameter. -/
structure IsParameter
    (arity : Arity)
    (argument : Placeholder.Argument) :
    Prop where
  legal : Identifier.isLegal argument.name
  noQuantity : arity.isPlural → argument.name ≠ quantityParameter

theorem isAccessorName_of_silent
    {naming : Naming}
    {rootFile : Path}
    {given : GivenNames}
    {entry : CatalogEntry}
    (silent : accessorDiagnostics naming rootFile given entry = []) :
    IsAccessorName (naming.accessorName entry.key) ∧
      given.lookup (naming.accessorName entry.key) = none := by
  unfold accessorDiagnostics at silent
  simp only at silent
  split at silent
  · cases silent
  · rename_i legal
    split at silent
    · cases silent
    · rename_i unreserved
      split at silent
      · cases silent
      · rename_i unused
        refine ⟨⟨?_, ?_⟩, unused⟩
        · simpa using legal
        · exact fun member => unreserved (List.contains_iff_mem.mpr member)

theorem isParameter_of_silent
    {rootFile : Path}
    {entry : CatalogEntry}
    {argument : Placeholder.Argument}
    (silent : argumentDiagnostics rootFile entry argument = []) :
    IsParameter entry.arity argument := by
  unfold argumentDiagnostics at silent
  split at silent
  · cases silent
  · rename_i legal
    split at silent
    · cases silent
    · rename_i noClash
      refine ⟨by simpa using legal, fun isPlural same => ?_⟩
      exact noClash (by simp [isPlural, same])

/-- A name that is not given out stays so while other names are. -/
theorem givenWith_of_silent
    {naming : Naming}
    {rootFile : Path}
    {given : GivenNames}
    {entry : CatalogEntry}
    (silent : accessorDiagnostics naming rootFile given entry = []) :
    givenWith naming given entry = (naming.accessorName entry.key, entry.key) :: given := by
  obtain ⟨name, unused⟩ := isAccessorName_of_silent silent
  unfold givenWith
  have unreserved : reservedMembers.contains (naming.accessorName entry.key) = false := by
    simpa using name.unreserved
  simp only [name.legal, unreserved, unused]
  rfl

/-- What the names of some keys keep, after the names given to earlier keys. -/
theorem names_of_silent_after
    {naming : Naming}
    {rootFile : Path}
    {given : GivenNames}
    {entries : List CatalogEntry}
    (silent : nameDiagnosticsAfter naming rootFile given entries = []) :
    (∀ entry ∈ entries, IsAccessorName (naming.accessorName entry.key)) ∧
      (∀ entry ∈ entries, ∀ argument ∈ entry.arguments.arguments,
        IsParameter entry.arity argument) ∧
      (entries.map fun entry => naming.accessorName entry.key).Nodup ∧
      ∀ entry ∈ entries, given.lookup (naming.accessorName entry.key) = none := by
  induction entries generalizing given with
  | nil =>
      exact ⟨by simp, by simp, .nil, by simp⟩
  | cons entry rest inductionHypothesis =>
      simp only [nameDiagnosticsAfter, List.append_eq_nil_iff] at silent
      obtain ⟨⟨accessor, parameters⟩, further⟩ := silent
      obtain ⟨name, unused⟩ := isAccessorName_of_silent accessor
      rw [givenWith_of_silent accessor] at further
      obtain ⟨names, arguments, distinct, apart⟩ := inductionHypothesis further
      have differs :
          ∀ other ∈ rest,
            naming.accessorName other.key ≠ naming.accessorName entry.key ∧
              given.lookup (naming.accessorName other.key) = none := by
        intro other member
        have missed := apart other member
        rw [List.lookup_cons] at missed
        split at missed
        · cases missed
        · rename_i apartHere
          exact ⟨by simpa using apartHere, missed⟩
      refine ⟨List.forall_mem_cons.mpr ⟨name, names⟩,
        List.forall_mem_cons.mpr ⟨fun argument member => ?_, arguments⟩, ?_,
        List.forall_mem_cons.mpr ⟨unused, fun other member => (differs other member).2⟩⟩
      · exact isParameter_of_silent (List.flatMap_eq_nil_iff.mp parameters argument member)
      · refine List.nodup_cons.mpr ⟨fun member => ?_, distinct⟩
        obtain ⟨other, otherMember, same⟩ := List.mem_map.mp member
        exact (differs other otherMember).1 same

end Phrasebook.Validation
