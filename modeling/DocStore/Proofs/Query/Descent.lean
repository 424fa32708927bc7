import DocStore.Proofs.Value.Places
import DocStore.Query.Path

/-!
# Going down a path

A path is a place whose steps are all fields, one for each name (`resolve_eq_at?`). Two paths with a dot between them are
the names of both (`names_dot`), so the second one is looked up in the object that the first one leads to. With a path of
one name, which is looked up in the record, this fixes what any path leads to (`resolve_dot`). As a path has at least one
name, be it the empty one, nothing is found below a value without fields.
-/

namespace DocStore.Query

open Value (at?)

/-! ## The names of a path -/

theorem names_ne_nil (path : String) : names path ≠ [] := by
  rw [names, ne_eq, List.map_eq_nil_iff]
  exact List.splitOnP_ne_nil _ _

theorem names_eq_singleton {name : String} (h : '.' ∉ name.toList) : names name = [name] := by
  have hsplit : name.toList.splitOn '.' = [name.toList] := by
    apply List.splitOnP_eq_singleton
    intro c hc
    exact beq_eq_false_iff_ne.mpr fun hdot => h (hdot ▸ hc)
  rw [names, hsplit, List.map_singleton, String.ofList_toList]

theorem names_dot (p q : String) : names (p ++ "." ++ q) = names p ++ names q := by
  have hchars : (p ++ "." ++ q).toList = p.toList ++ '.' :: q.toList := by simp
  have hsplit : (p.toList ++ '.' :: q.toList).splitOn '.' = p.toList.splitOn '.' ++ q.toList.splitOn '.' :=
    List.splitOnP_append_cons _ _ (by decide)
  rw [names, hchars, hsplit, List.map_append, names, names]

/-! ## Paths and places -/

theorem follow_cons (fields : Entries Value) (name : String) {names : List String} (hnames : names ≠ []) :
    follow fields (name :: names) = (fields.get? name).bind fun v => v.fields?.bind (follow · names) := by
  obtain ⟨next, others, rfl⟩ := List.exists_cons_of_ne_nil hnames
  rw [follow]
  · cases fields.get? name with
    | none => rfl
    | some v => cases v <;> rfl
  · exact List.cons_ne_nil next others

/-- The place of some names is found in an object only, along its fields. -/
theorem at?_fields (v : Value) {names : List String} (hnames : names ≠ []) :
    v.at? (names.map .field) = v.fields?.bind (follow · names) := by
  induction names generalizing v with
  | nil => exact absurd rfl hnames
  | cons name names ih =>
    have hchild : v.child? (.field name) = v.fields?.bind (Entries.get? name) := by cases v <;> rfl
    rw [List.map_cons, at?, hchild, Option.bind_assoc]
    congr 1
    funext fields
    -- the last name may lead to any value, every other one has to lead to an object
    cases names with
    | nil => exact Option.bind_fun_some _
    | cons next others =>
      have hothers : next :: others ≠ [] := List.cons_ne_nil _ _
      rw [follow_cons fields name hothers]
      congr 1
      funext inner
      exact ih inner hothers

theorem resolve_eq_at? (fields : Entries Value) (path : String) :
    resolve fields path = (Value.object fields).at? ((names path).map .field) := by
  rw [at?_fields _ (names_ne_nil path)]
  rfl

/-! ## A path behind a path -/

theorem resolve_name (record : Record) {name : String} (h : '.' ∉ name.toList) :
    resolve record name = record.get? name := by
  rw [resolve, names_eq_singleton h]
  rfl

theorem resolve_behind (record : Record) (p q : String) :
    resolve record (p ++ "." ++ q) = (resolve record p).bind fun v => v.fields?.bind (resolve · q) := by
  calc resolve record (p ++ "." ++ q)
    _ = (Value.object record).at? ((names p).map .field ++ (names q).map .field) := by
      rw [resolve_eq_at?, names_dot, List.map_append]
    _ = (resolve record p).bind (at? ((names q).map .field)) := by
      rw [Value.at?_append, ← resolve_eq_at?]
    _ = (resolve record p).bind fun v => v.fields?.bind (resolve · q) := by
      congr 1
      funext v
      exact at?_fields v (names_ne_nil q)

/-- Without a dot a path is the name of a field. What stands behind a dot is looked up in the object that the path before it
leads to; if that path leads to nothing, or to any other value, the whole path leads to nothing. -/
theorem resolve_dot (record : Record) :
    (∀ name : String, '.' ∉ name.toList → resolve record name = record.get? name) ∧
    ∀ p q : String, resolve record (p ++ "." ++ q) =
      match resolve record p with
      | some (.object fields) => resolve fields q
      | _ => none := by
  constructor
  · intro name hname
    exact resolve_name record hname
  · intro p q
    rw [resolve_behind]
    cases resolve record p with
    | none => rfl
    | some v => cases v <;> rfl

/-- Empty names: a dot stands between two of them. The null that they lead to is found, but nothing below it. -/
theorem resolve_dot_empty :
    '.' ∉ "".toList ∧ resolve [("", .object [("", .null)])] "." = some .null ∧
      resolve [("", .object [("", .null)])] ".." = none := by
  have hempty : '.' ∉ "".toList := by decide
  have hone : "." = "" ++ "." ++ "" := by decide
  have htwo : ".." = "." ++ "." ++ "" := by decide
  obtain ⟨hname, hbehind⟩ := resolve_dot [("", .object [("", .null)])]
  have hnull : resolve [("", .object [("", .null)])] "." = some .null := by
    rw [hone, hbehind, hname "" hempty]
    rfl
  refine ⟨hempty, hnull, ?_⟩
  rw [htwo, hbehind, hnull]

end DocStore.Query
