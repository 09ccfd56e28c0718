import CrossCall.Json.Reader
import CrossCall.Proofs.Json.Spelling

/-!
# Reading trees back

A reader that expects a value takes the lexemes of a tree one by one and ends up with the tree in its
place, whatever has been opened around it. So the text of a tree is read as the tree, if JSON can
hold it.

## Main definitions

* `Place.isOfValue` — the places at which a value may stand
* `State.Receives` — the lexemes of a tree put it where it belongs

## Main results

* `State.receives_of_isJson` — those of every tree do that JSON can hold
* `parse?_pretty` — the text of a tree is read as the tree, also with white space around it
-/

namespace CrossCall.Json

variable {frames : List Frame} {place : Place} {d : Data} {s s' : State} {ls : List Lexeme}

/-- A value may stand at a place. -/
def Place.isOfValue : Place → Bool
  | value | firstItem => true
  | _ => false

/-- The name of a field may stand at a place. -/
def Place.isOfName : Place → Bool
  | name | firstName => true
  | _ => false

theorem setField_of_not_mem {fields : Fields} {name : String} (h : name ∉ fields.map (·.1)) :
    setField name d fields = fields ++ [(name, d)] := by
  rw [setField, List.filter_eq_self.mpr]
  rintro f hf
  simp only [ne_eq, decide_not, Bool.not_eq_eq_eq_not, Bool.not_true, decide_eq_false_iff_not]
  rintro rfl
  exact h (List.mem_map_of_mem hf)

namespace State

/-! ### Single lexemes -/

theorem foldlM_take_cons {l : Lexeme} (h : s.take l = some s') (ls : List Lexeme) :
    (l :: ls).foldlM take s = ls.foldlM take s' := by
  rw [List.foldlM_cons, h]
  rfl

theorem foldlM_take_append (h : ls.foldlM take s = some s') (ls' : List Lexeme) :
    (ls ++ ls').foldlM take s = ls'.foldlM take s' := by
  rw [List.foldlM_append, h]
  rfl

theorem take_scalar (h : place.isOfValue) :
    (inside place frames).take (.scalar d) = some (put d frames) := by
  cases place with
  | value | firstItem => rfl
  | name | firstName | colon | after => cases h

theorem take_openList (h : place.isOfValue) (hdepth : frames.length < maxDepth) :
    (inside place frames).take (.mark '[') = some (inside .firstItem (.list [] :: frames)) := by
  have henter : enter .firstItem (.list []) frames = some (inside .firstItem (.list [] :: frames)) :=
    if_pos hdepth
  cases place with
  | value | firstItem => exact henter
  | name | firstName | colon | after => cases h

theorem take_openRecord (h : place.isOfValue) (hdepth : frames.length < maxDepth) :
    (inside place frames).take (.mark '{') = some (inside .firstName (.record [] "" :: frames)) := by
  have henter :
      enter .firstName (.record [] "") frames = some (inside .firstName (.record [] "" :: frames)) :=
    if_pos hdepth
  cases place with
  | value | firstItem => exact henter
  | name | firstName | colon | after => cases h

theorem take_name {fields : Fields} {last name : String} (h : place.isOfName) :
    (inside place (.record fields last :: frames)).take (.scalar (.text name)) =
      some (inside .colon (.record fields name :: frames)) := by
  cases place with
  | name | firstName => rfl
  | value | firstItem | colon | after => cases h

/-! ### Whole values -/

/-- The lexemes of a tree put it where it belongs. -/
def Receives (frames : List Frame) (d : Data) : Prop :=
  ∀ place : Place, place.isOfValue → d.lexemes.foldlM take (inside place frames) = some (put d frames)

theorem receives_of_scalar (h : d.lexemes = [.scalar d]) : Receives frames d := by
  intro place hplace
  rw [h, foldlM_take_cons (take_scalar hplace)]
  rfl

/-- Items are added to those in front of them. -/
theorem foldlM_take_items {items : List Data} (hne : items ≠ [])
    (h : ∀ d ∈ items, ∀ before, Receives (.list before :: frames) d) (hplace : place.isOfValue)
    (before : List Data) :
    ([.mark ','].intercalate (Data.itemLexemes items)).foldlM take
        (inside place (.list before :: frames)) =
      some (inside .after (.list (before ++ items) :: frames)) := by
  induction items generalizing place before with
  | nil => exact absurd rfl hne
  | cons d items ih =>
    obtain ⟨hd, hitems⟩ := List.forall_mem_cons.mp h
    cases items with
    | nil => exact (congrArg _ List.intercalate_singleton).trans (hd before place hplace)
    | cons d' items =>
      have hvalue : Place.value.isOfValue := rfl
      have hrest := ih (List.cons_ne_nil _ _) hitems hvalue (before ++ [d])
      have hcomma : (inside .after (.list (before ++ [d]) :: frames)).take (.mark ',') =
          some (inside .value (.list (before ++ [d]) :: frames)) := rfl
      rw [Data.itemLexemes, Data.itemLexemes, List.intercalate_cons_cons, List.append_assoc,
        foldlM_take_append (hd before place hplace), put, List.singleton_append,
        foldlM_take_cons hcomma]
      rw [Data.itemLexemes, List.append_assoc, List.singleton_append] at hrest
      exact hrest

/-- Fields are added to those in front of them, if they have other names. -/
theorem exists_foldlM_take_fields {fields before : Fields} (hne : fields ≠ [])
    (h : ∀ f ∈ fields, ∀ before name, Receives (.record before name :: frames) f.2)
    (hnames : ((before ++ fields).map (·.1)).Nodup) (hplace : place.isOfName) (last : String) :
    ∃ name,
      ([.mark ','].intercalate (Data.fieldLexemes fields)).foldlM take
          (inside place (.record before last :: frames)) =
        some (inside .after (.record (before ++ fields) name :: frames)) := by
  induction fields generalizing place before last with
  | nil => exact absurd rfl hne
  | cons f fields ih =>
    obtain ⟨name, d⟩ := f
    obtain ⟨hd, hfields⟩ := List.forall_mem_cons.mp h
    have hnew : name ∉ before.map (·.1) := by
      rw [List.map_append, List.nodup_append] at hnames
      intro hmem
      exact hnames.2.2 name hmem name List.mem_cons_self rfl
    have hcolon : (inside .colon (.record before name :: frames)).take (.mark ':') =
        some (inside .value (.record before name :: frames)) := rfl
    have hfirst (rest : List Lexeme) :
        ((.scalar (.text name) :: .mark ':' :: d.lexemes) ++ rest).foldlM take
            (inside place (.record before last :: frames)) =
          rest.foldlM take (inside .after (.record (before ++ [(name, d)]) name :: frames)) := by
      rw [List.cons_append, List.cons_append, foldlM_take_cons (take_name hplace),
        foldlM_take_cons hcolon, foldlM_take_append (hd before name .value rfl), put,
        setField_of_not_mem hnew]
    cases fields with
    | nil =>
      refine ⟨name, ?_⟩
      have hlast := hfirst []
      rw [List.append_nil] at hlast
      exact (congrArg _ List.intercalate_singleton).trans hlast
    | cons f' fields =>
      have hcomma :
          (inside .after (.record (before ++ [(name, d)]) name :: frames)).take (.mark ',') =
            some (inside .name (.record (before ++ [(name, d)]) name :: frames)) := rfl
      have hnames' : ((before ++ [(name, d)] ++ f' :: fields).map (·.1)).Nodup := by
        rwa [List.append_assoc, List.singleton_append]
      have hplace' : Place.name.isOfName := rfl
      obtain ⟨lastName, hrest⟩ := ih (List.cons_ne_nil _ _) hfields hnames' hplace' name
      refine ⟨lastName, ?_⟩
      rw [List.append_assoc, List.singleton_append] at hrest
      obtain ⟨name', d'⟩ := f'
      rw [Data.fieldLexemes, Data.fieldLexemes, List.intercalate_cons_cons, List.append_assoc, hfirst,
        List.singleton_append, foldlM_take_cons hcomma]
      rw [Data.fieldLexemes] at hrest
      exact hrest

/-- A tree is put where it belongs, if JSON can hold it and there is room for what it opens. -/
theorem receives_of_isJson {n : Nat} (h : d.IsJson n) (hdepth : frames.length + n ≤ maxDepth) :
    Receives frames d := by
  -- What stands inside a list or a record has one more frame around it and one level less to go.
  induction h generalizing frames with
  | null | bool _ | int _ _ | text _ => exact receives_of_scalar rfl
  | @list n items _ ih =>
    intro place hplace
    have hitems : ∀ d ∈ items, ∀ before, Receives (.list before :: frames) d := fun d hd before =>
      ih d hd (by rw [List.length_cons]; omega)
    rw [Data.lexemes, foldlM_take_cons (take_openList hplace (by omega))]
    cases items with
    | nil => rfl
    | cons d items =>
      have hfirst : Place.firstItem.isOfValue := rfl
      have hread := foldlM_take_items (List.cons_ne_nil _ _) hitems hfirst []
      rw [foldlM_take_append hread]
      rfl
  | @record n fields hnames _ ih =>
    intro place hplace
    have hfields : ∀ f ∈ fields, ∀ before name, Receives (.record before name :: frames) f.2 :=
      fun f hf before name => ih f hf (by rw [List.length_cons]; omega)
    rw [Data.lexemes, foldlM_take_cons (take_openRecord hplace (by omega))]
    cases fields with
    | nil => rfl
    | cons f fields =>
      have hfirst : Place.firstName.isOfName := rfl
      have hnames' : ((([] : Fields) ++ f :: fields).map (·.1)).Nodup := hnames
      obtain ⟨name, hread⟩ :=
        exists_foldlM_take_fields (List.cons_ne_nil _ _) hfields hnames' hfirst ""
      rw [foldlM_take_append hread]
      rfl

end State

/-! ### Whole texts -/

/-- A text that consists of the lexemes of a tree is read as the tree. -/
theorem parse?_eq_of_spells {s : String} (h : d.IsJson maxDepth) (hs : Spells s.toList d.lexemes) :
    parse? s = some d := by
  have hlexemes := hs [] endsWords_nil
  have hempty : lexemes? .between [] = some [] := rfl
  rw [List.append_nil, hempty, Option.map_some, List.append_nil] at hlexemes
  have hdepth : ([] : List Frame).length + maxDepth ≤ maxDepth := (Nat.zero_add _).le
  have hread := State.receives_of_isJson h hdepth .value rfl
  rw [parse?, hlexemes]
  change (d.lexemes.foldlM State.take (.inside .value []) >>= fun s => s.result?) = _
  rw [hread]
  rfl

/-- The text of a tree is read as the tree, also with white space around it. -/
theorem parse?_pretty (h : d.IsJson maxDepth) {before after : String}
    (hbefore : ∀ c ∈ before.toList, isSpace c) (hafter : ∀ c ∈ after.toList, isSpace c) :
    parse? (before ++ d.pretty ++ after) = some d := by
  have hspaces : Spells after.toList [] := by
    have hspelt := spells_nil.spaces_append hafter
    rwa [List.append_nil] at hspelt
  have hends : EndsWords after.toList := fun c hc =>
    not_isWordCharacter_of_isSpace (hafter c (List.mem_of_mem_head? hc))
  have htext := ((spells_prettyAt h 0).append hspaces hends).spaces_append hbefore
  apply parse?_eq_of_spells h
  rwa [List.append_nil, ← String.toList_append, ← String.toList_append, ← String.append_assoc]
    at htext

end CrossCall.Json
