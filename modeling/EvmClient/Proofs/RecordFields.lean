import EvmClient.Json.Record
import EvmClient.Proofs.JsonText

/-
How the fields of a record stand in its JSON, and how they are read.

   Each field has its own way to say that it holds no value: some stand as `null`, some are left out. Each also has its
   own way to take what is missing. Where a field is written in a form that gives all its values back, the way in which
   it is read gives back what was written, a missing value included.

   1. `fields?_object_eq_some_iff`, `Fields.required_eq_some_iff`, `Fields.optionalOrAbsent_eq_some_iff` — what an
      object holds for the fields, and what is read of them.
   2. `ReadsBack` — forms that give all values back; lists have one if their elements have.
   3. `ReadsBack.required`, `.orDefault`, `.nullable`, `.omitted` — what each way of reading makes of what is written
      for it.
   4. `fields?_object`, `lookup_memberIfSome` — the members of a record, some of them left out. -/
namespace EvmClient.Json

/-! ## Objects -/

theorem lookup_filter {names : List String} {name : String} (h : name ∈ names) (members : List (String × Json)) :
    (members.filter fun m => names.contains m.1).lookup name = members.lookup name := by
  induction members with
  | nil => rfl
  | cons m members ih =>
    rw [List.filter_cons]
    cases hname : name == m.1 with
    | true =>
      have hdeclared : names.contains m.1 = true := List.contains_iff_mem.2 (eq_of_beq hname ▸ h)
      rw [if_pos hdeclared, List.lookup_cons, List.lookup_cons, hname]
    | false =>
      rw [List.lookup_cons, hname]
      split
      · rw [List.lookup_cons, hname]
        exact ih
      · exact ih

/-- No declared name stands twice. -/
def Once (names : List String) (members : List (String × Json)) : Prop :=
  ((members.filter fun m => names.contains m.1).map Prod.fst).Nodup

instance (names : List String) (members : List (String × Json)) : Decidable (Once names members) :=
  inferInstanceAs (Decidable (List.Nodup _))

/-- The fields of an object are its members, if none of them stands twice. -/
theorem fields?_object_eq_some_iff {names : List String} {members : List (String × Json)} {f : Fields} :
    fields? names (.object members) = some f ↔
      Once names members ∧ f = ⟨members.filter fun m => names.contains m.1, false⟩ := by
  unfold fields?
  dsimp only
  constructor
  · intro h
    split at h
    · rename_i hnodup
      cases h
      exact ⟨hnodup, rfl⟩
    · cases h
  · rintro ⟨honce, rfl⟩
    exact if_pos honce

namespace Fields
variable {α : Type} {f : Fields} {name : String} {read : Json → Option α}

theorem required_eq_some_iff {a : α} :
    f.required name read = some a ↔ ∃ j, f.found.lookup name = some j ∧ read j = some a := by
  unfold required
  cases f.found.lookup name <;> simp

/-- What is made of a field's value may as well be made while it is read. -/
theorem required_map {β : Type} (g : α → β) :
    (f.required name read).map g = f.required name fun j => (read j).map g := by
  unfold required
  cases f.found.lookup name <;> rfl

/-- A field that holds no value is absent or `null`. -/
theorem optionalOrAbsent_eq_some_iff {o : Option α} :
    f.optionalOrAbsent name read = some o ↔
      (f.found.lookup name = none ∨ f.found.lookup name = some .null) ∧ o = none ∨
        ∃ j a, f.found.lookup name = some j ∧ j ≠ .null ∧ read j = some a ∧ o = some a := by
  unfold optionalOrAbsent
  cases f.found.lookup name with
  | none => simp [eq_comm]
  | some j =>
    cases j with
    | null => simp [eq_comm]
    | _ => simp [Option.map_eq_some_iff, eq_comm (b := o)]

/-- In an object there is no difference between these two. -/
theorem optional_eq (h : f.positional = false) : f.optional name read = f.optionalOrAbsent name read := by
  unfold optional optionalOrAbsent
  rw [h]
  rfl

end Fields

/-! ## Forms of values -/

/-- All values have a JSON that gives them back. None of it is `null`, and all of it can be read in a text. -/
structure ReadsBack {α : Type} (write : α → Json) (read : Json → Option α) : Prop where
  back (a : α) : read (write a) = some a
  present (a : α) : write a ≠ .null
  plain (a : α) : (write a).Plain

theorem bool_readsBack : ReadsBack Json.bool asBool? := ⟨fun _ => rfl, by simp, fun _ => trivial⟩

theorem string_readsBack : ReadsBack Json.string asString? := ⟨fun _ => rfl, by simp, fun _ => trivial⟩

theorem plainElements_iff {vs : List Json} : PlainElements vs ↔ ∀ v ∈ vs, v.Plain := by
  induction vs with
  | nil => simp [PlainElements]
  | cons v vs ih => rw [PlainElements, ih, List.forall_mem_cons]

namespace ReadsBack
variable {α : Type} {write : α → Json} {read : Json → Option α}

/-- Lists read back if their elements do. -/
theorem list (h : ReadsBack write read) : ReadsBack (fun l => .array (l.map write)) (asList? read) where
  back l := by
    have hread : read ∘ write = pure := funext h.back
    rw [asList?, List.mapM_map, hread, List.mapM_pure, List.map_id']
    rfl
  present _ := by simp
  plain l := by
    refine plainElements_iff.2 fun v hv => ?_
    obtain ⟨a, -, rfl⟩ := List.mem_map.1 hv
    exact h.plain a

/-- What reads back as a value reads back from its text, too. -/
theorem survives (h : ReadsBack write read) (a : α) :
    read (write a) = some a ∧ (ofText? (write a).text).bind read = some a := by
  refine ⟨h.back a, ?_⟩
  rw [ofText?, text, String.toList_ofList, read?_write (h.plain a), Option.bind_some, h.back]

/-! ## Fields -/

section Fields
variable {f : Fields} {name : String} {a : α} {o : Option α}

theorem required (h : ReadsBack write read) (hname : f.found.lookup name = some (write a)) :
    f.required name read = some a :=
  Fields.required_eq_some_iff.2 ⟨_, hname, h.back a⟩

theorem orDefault {default : α} (h : ReadsBack write read) (hname : f.found.lookup name = some (write a)) :
    f.orDefault name default read = some a := by
  rw [Fields.orDefault, hname]
  exact h.back a

/-- A field that stands as `null` where it holds no value. -/
theorem nullable (h : ReadsBack write read) (hname : f.found.lookup name = some (orNull write o)) :
    f.optionalOrAbsent name read = some o := by
  refine Fields.optionalOrAbsent_eq_some_iff.2 ?_
  cases o with
  | none => exact .inl ⟨.inr hname, rfl⟩
  | some a => exact .inr ⟨_, a, hname, h.present a, h.back a, rfl⟩

/-- A field that is left out where it holds no value. -/
theorem omitted (h : ReadsBack write read) (hname : f.found.lookup name = o.map write) :
    f.optionalOrAbsent name read = some o := by
  refine Fields.optionalOrAbsent_eq_some_iff.2 ?_
  cases o with
  | none => exact .inl ⟨.inl hname, rfl⟩
  | some a => exact .inr ⟨_, a, hname, h.present a, h.back a, rfl⟩

end Fields

/-! ## Members -/

theorem plain_orNull (h : ReadsBack write read) (o : Option α) : (orNull write o).Plain := by
  cases o with
  | none => trivial
  | some a => exact h.plain a

theorem plain_memberIfSome (h : ReadsBack write read) (name : String) (o : Option α) :
    PlainMembers (memberIfSome name write o) := by
  cases o with
  | none => trivial
  | some a => exact ⟨h.plain a, trivial⟩

end ReadsBack

theorem plainMembers_append {a b : List (String × Json)} (ha : PlainMembers a) (hb : PlainMembers b) :
    PlainMembers (a ++ b) := by
  induction a with
  | nil => exact hb
  | cons m a ih => exact ⟨ha.1, ih ha.2⟩

section Members
variable {α : Type} {write : α → Json} {name other : String} {o : Option α}

theorem names_memberIfSome : ((memberIfSome name write o).map Prod.fst).Sublist [name] := by
  cases o with
  | none => exact List.nil_sublist _
  | some a => exact List.Sublist.refl _

theorem lookup_memberIfSome :
    (memberIfSome other write o).lookup name = if name == other then o.map write else none := by
  cases o with
  | none => simp [memberIfSome]
  | some a =>
    rw [memberIfSome, List.lookup_cons]
    cases h : name == other with
    | true => rfl
    | false => rfl

/-- An object whose members are fields of the record, in their order, gives the fields their members. -/
theorem fields?_object {names : List String} {members : List (String × Json)} (hnames : names.Nodup)
    (hmembers : (members.map Prod.fst).Sublist names) : fields? names (.object members) = some ⟨members, false⟩ := by
  have hdeclared : members.filter (fun m => names.contains m.1) = members := by
    refine List.filter_eq_self.2 fun m hm => ?_
    exact List.contains_iff_mem.2 (hmembers.subset (List.mem_map_of_mem hm))
  refine fields?_object_eq_some_iff.2 ⟨?_, by rw [hdeclared]⟩
  rw [Once, hdeclared]
  exact hnames.sublist hmembers

/-- One field is read, and then the others. -/
theorem read_field {β γ : Type} {field : Option β} {next : β → Option γ} {b : β} {c : γ} (hfield : field = some b)
    (hnext : next b = some c) : (field >>= next) = some c := by
  rw [hfield]
  exact hnext

end Members
end EvmClient.Json
