import Mathlib.Data.List.Basic

/-! A small relational database: tables with keys, checks and references, the statements of a
schema script, and what each does. A statement that fails changes nothing. -/

namespace AgentCore.Foundation.Sql

open List Function

inductive SqlError where
  | noSuchTable
  | tableExists
  | duplicateColumn
  | nameTaken
  | constraint
  | foreignKey
  | notText

inductive Value where
  | null
  | integer (n : Int)
  | text (s : String)
deriving DecidableEq

/-- A row by column; a column that the table does not have reads as null. -/
abbrev Row := String → Value

structure Key where
  columns : List String
  condition : Row → Bool := fun _ => true

def Key.collide (k : Key) (r s : Row) : Bool :=
  k.condition r && k.condition s &&
    k.columns.all fun c => decide (r c = s c) && decide (r c ≠ .null)

structure TableDef (name : Type) where
  columns : List String
  keys : List Key := []
  check : Row → Bool := fun _ => true
  /-- Each a column, and the table and the column it refers to. -/
  references : List (String × name × String) := []

structure Table (name : Type) extends TableDef name where
  rows : List Row

structure Database (name : Type) where
  version : Nat
  table : name → Option (Table name)
  /-- The indexes and triggers with the tables they are on. -/
  objects : List (String × name)

section Statements

variable {name : Type} [DecidableEq name]

def Database.put (db : Database name) (n : name) (t : Option (Table name)) : Database name :=
  { db with table := update db.table n t }

def Table.admits (t : Table name) (r : Row) : Bool :=
  t.check r && t.rows.all fun s => t.keys.all fun k => !k.collide s r

def Database.refersTo (db : Database name) (r : Row) (ref : String × name × String) : Bool :=
  decide (r ref.1 = .null) ||
    (db.table ref.2.1).any fun t => t.rows.any fun s => decide (s ref.2.2 = r ref.1)

inductive Statement (name : Type) where
  | createTable (ifNotExists : Bool) (n : name) (d : TableDef name)
  | addColumn (n : name) (column : String) (value : Value)
  | createIndex (ifNotExists : Bool) (index : String) (n : name) (unique : Option Key)
  | createTrigger (ifNotExists : Bool) (trigger : String) (n : name)
  | insert (orIgnore : Bool) (n : name) (select : Database name → Except SqlError (List Row))
  | dropTable (n : name)
  | renameTable (n n' : name)
  | setVersion (version : Nat)

def Table.widen (t : Table name) (column : String) (value : Value) : Table name :=
  { t with
    columns := t.columns ++ [column]
    rows := t.rows.map fun r => update r column value }

def Table.append (t : Table name) (r : Row) : Table name := { t with rows := t.rows ++ [r] }

def Database.find (db : Database name) (n : name) : Except SqlError (Table name) :=
  match db.table n with
  | some t => .ok t
  | none => .error .noSuchTable

def insertRow (foreignKeys orIgnore : Bool) (n : name) (db : Database name) (r : Row) :
    Except SqlError (Database name) := do
  let t ← db.find n
  if t.admits r then
    if foreignKeys && !t.references.all (db.refersTo r) then .error .foreignKey
    else .ok (db.put n (some (t.append r)))
  else if orIgnore then .ok db
  else .error .constraint

def Database.named (db : Database name) (object : String) : Bool :=
  db.objects.any fun o => decide (o.1 = object)

def Database.addObject (db : Database name) (object : String) (n : name) : Database name :=
  { db with objects := db.objects ++ [(object, n)] }

def exec (foreignKeys : Bool) (db : Database name) :
    Statement name → Except SqlError (Database name)
  | .createTable ifNotExists n d =>
    if (db.table n).isSome then if ifNotExists then .ok db else .error .tableExists
    else .ok (db.put n (some ⟨d, []⟩))
  | .addColumn n column value => do
    let t ← db.find n
    if column ∈ t.columns then .error .duplicateColumn
    else .ok (db.put n (some (t.widen column value)))
  | .createIndex ifNotExists index n unique =>
    if db.named index then if ifNotExists then .ok db else .error .nameTaken
    else do
      let t ← db.find n
      match unique with
      | none => .ok (db.addObject index n)
      | some key =>
        if t.rows.Pairwise fun r s => key.collide r s = false then
          .ok ((db.put n (some { t with keys := t.keys ++ [key] })).addObject index n)
        else .error .constraint
  | .createTrigger ifNotExists trigger n =>
    if db.named trigger then if ifNotExists then .ok db else .error .nameTaken
    else do
      let _ ← db.find n
      .ok (db.addObject trigger n)
  | .insert orIgnore n select => do
    let _ ← db.find n
    let rows ← select db
    rows.foldlM (insertRow foreignKeys orIgnore n) db
  | .dropTable n => do
    let _ ← db.find n
    .ok { db.put n none with objects := db.objects.filter fun o => decide (o.2 ≠ n) }
  | .renameTable n n' => do
    let t ← db.find n
    if (db.table n').isSome then .error .tableExists
    else
      .ok { (db.put n none).put n' (some t) with
        objects := db.objects.map fun o => if o.2 = n then (o.1, n') else o }
  | .setVersion version => .ok { db with version }

end Statements

/-! ## What the statements need and do -/

section Lemmas

variable {name : Type} [DecidableEq name] {db : Database name} {n m : name} {t : Table name}
  {orIgnore : Bool} {tmp : name} {r : Row} {select : Database name → Except SqlError (List Row)}

@[simp] lemma Database.put_self (t : Option (Table name)) : (db.put n t).table n = t := by
  simp [Database.put]

lemma Database.put_of_ne (t : Option (Table name)) (h : m ≠ n) :
    (db.put n t).table m = db.table m := by
  simp [Database.put, h]

omit [DecidableEq name] in

omit [DecidableEq name] in

omit [DecidableEq name] in
lemma Database.find_of_some (h : db.table n = some t) : db.find n = .ok t := by
  rw [Database.find, h]

omit [DecidableEq name] in
lemma Database.refersTo_iff : db.refersTo r ref = true ↔ r ref.1 = .null ∨
      ∃ t, db.table ref.2.1 = some t ∧ ∃ s ∈ t.rows, s ref.2.2 = r ref.1 := by
  simp [Database.refersTo, Option.any_eq_true]

lemma exec_addColumn (h : db.table n = some t) (hcolumn : column ∉ t.columns) :
    exec fk db (.addColumn n column value) = .ok (db.put n (some (t.widen column value))) := by
  simp only [exec, Database.find_of_some h]
  exact if_neg hcolumn

lemma exec_ensureTable (d : TableDef name) :
    exec fk db (.createTable true n d) = .ok (if (db.table n).isSome then db
      else db.put n (some ⟨d, []⟩)) := by
  simp only [exec]
  split <;> rfl

lemma exec_createTable (d : TableDef name) (h : db.table n = none) :
    exec fk db (.createTable false n d) = .ok (db.put n (some ⟨d, []⟩)) := by
  simp [exec, h]

lemma exec_ensureIndex (index : String) (h : db.table n = some t) :
    exec fk db (.createIndex true index n none) =
      .ok (if db.named index then db else db.addObject index n) := by
  simp only [exec, Database.find_of_some h]
  split <;> rfl

lemma exec_ensureTrigger (trigger : String) (h : db.table n = some t) :
    exec fk db (.createTrigger true trigger n) =
      .ok (if db.named trigger then db else db.addObject trigger n) := by
  simp only [exec, Database.find_of_some h]
  split <;> rfl

lemma exec_ensureUnique (index : String) (h : db.table n = some t)
    (hdistinct : t.rows.Pairwise fun r s => key.collide r s = false) :
    exec fk db (.createIndex true index n (some key)) = .ok (if db.named index then db
        else (db.put n (some { t with keys := t.keys ++ [key] })).addObject index n) := by
  simp only [exec, Database.find_of_some h]
  split
  next => rfl
  next => exact if_pos hdistinct

lemma exec_dropTable (h : db.table n = some t) : exec fk db (.dropTable n) =
      .ok { db.put n none with objects := db.objects.filter fun o => decide (o.2 ≠ n) } := by
  simp only [exec, Database.find_of_some h]
  rfl

lemma exec_renameTable (h : db.table n = some t) (hfree : db.table m = none) :
    exec fk db (.renameTable n m) = .ok { (db.put n none).put m (some t) with
        objects := db.objects.map fun o => if o.2 = n then (o.1, m) else o } := by
  simp only [exec, Database.find_of_some h, hfree]
  rfl

structure Lawful (d : TableDef name) (rows : List Row) : Prop where
  check : ∀ r ∈ rows, d.check r = true
  distinct : rows.Pairwise fun r s => ∀ k ∈ d.keys, k.collide r s = false

omit [DecidableEq name] in
@[simp] lemma lawful_nil (d : TableDef name) : Lawful d [] :=
  ⟨fun _ hr => absurd hr not_mem_nil, .nil⟩

omit [DecidableEq name] in
lemma Lawful.map {d d' : TableDef name} (h : Lawful d rows)
    (hcheck : ∀ r, d.check r = true → d'.check (f r) = true)
    (hkeys : ∀ r s, (∀ k ∈ d.keys, k.collide r s = false) →
      ∀ k ∈ d'.keys, k.collide (f r) (f s) = false) : Lawful d' (rows.map f) where
  check r hr := by
    obtain ⟨r', hr', rfl⟩ := mem_map.mp hr
    exact hcheck r' (h.check r' hr')
  distinct := pairwise_map.mpr (h.distinct.imp fun {r s} => hkeys r s)

omit [DecidableEq name] in
lemma admits_of_lawful (h : Lawful t.toTableDef (t.rows ++ [r])) : t.admits r = true := by
  have hdistinct := (pairwise_append.mp h.distinct).2.2
  simp only [Table.admits, h.check r (by simp), Bool.true_and, all_eq_true]
  intro s hs k hk
  simp [hdistinct s hs r (by simp) k hk]

lemma foldlM_insertRow (rs : List Row) (h : db.table n = some t)
    (hlawful : Lawful t.toTableDef (t.rows ++ rs)) (hrefs : fk = false ∨ t.references = []) :
    rs.foldlM (insertRow fk orIgnore n) db =
      .ok (db.put n (some { t with rows := t.rows ++ rs })) := by
  induction rs generalizing db t with
  | nil =>
    have hsame : update db.table n (some t) = db.table :=
      update_eq_self_iff.mpr h.symm
    simp only [append_nil, foldlM_nil, Database.put, hsame]
    rfl
  | cons r rs ih =>
    have hassoc : t.rows ++ r :: rs = (t.rows ++ [r]) ++ rs := by simp
    have hfirst : Lawful t.toTableDef (t.rows ++ [r]) :=
      ⟨fun s hs => hlawful.check s (by rw [hassoc]; exact mem_append_left _ hs),
        (pairwise_append.mp (hassoc ▸ hlawful.distinct)).1⟩
    have hrow : insertRow fk orIgnore n db r = .ok (db.put n (some (t.append r))) := by
      have hfk : (fk && !t.references.all (db.refersTo r)) = false := by
        rcases hrefs with rfl | hnone
        · rfl
        · simp [hnone]
      simp only [insertRow, Database.find_of_some h]
      simp [admits_of_lawful hfirst, hfk, bind, Except.bind]
    have hrest := ih (db.put_self _) (t := t.append r) (hassoc ▸ hlawful) hrefs
    simp only [foldlM_cons, hrow, bind, Except.bind]
    rw [hrest]
    simp [Database.put, Table.append]

lemma foldlM_insertRow_ignore (fk : Bool) (rs : List Row) (h : db.table n = some t)
    (hrefs : ∀ r ∈ rs, ∀ ref ∈ t.references, ref.2.1 ≠ n ∧ db.refersTo r ref = true) :
    ∃ more, more ⊆ rs ∧ rs.foldlM (insertRow fk true n) db =
      .ok (db.put n (some { t with rows := t.rows ++ more })) := by
  induction rs generalizing db t with
  | nil =>
    have hsame : update db.table n (some t) = db.table :=
      update_eq_self_iff.mpr h.symm
    refine ⟨[], nil_subset _, ?_⟩
    simp only [append_nil, foldlM_nil, Database.put, hsame]
    rfl
  | cons r rs ih =>
    have hall : t.references.all (db.refersTo r) = true :=
      all_eq_true.mpr fun ref href => (hrefs r (by simp) ref href).2
    cases hadmits : t.admits r with
    | false =>
      have hrow : insertRow fk true n db r = .ok db := by
        simp only [insertRow, Database.find_of_some h]
        simp [hadmits, bind, Except.bind]
      obtain ⟨more, hmore, hrest⟩ := ih h fun s hs => hrefs s (mem_cons_of_mem r hs)
      refine ⟨more, subset_cons_of_subset r hmore, ?_⟩
      simp only [foldlM_cons, hrow, bind, Except.bind]
      exact hrest
    | true =>
      have hrow : insertRow fk true n db r = .ok (db.put n (some (t.append r))) := by
        simp only [insertRow, Database.find_of_some h]
        simp [hadmits, hall, bind, Except.bind]
      -- the tables that the references read are other tables, so that they still hold
      have hrefs' : ∀ s ∈ rs, ∀ ref ∈ (t.append r).references,
          ref.2.1 ≠ n ∧ (db.put n (some (t.append r))).refersTo s ref = true := by
        intro s hs ref href
        obtain ⟨hne, hrefers⟩ := hrefs s (mem_cons_of_mem r hs) ref href
        refine ⟨hne, ?_⟩
        rw [Database.refersTo, Database.put_of_ne _ hne]
        exact hrefers
      obtain ⟨more, hmore, hrest⟩ := ih (db.put_self _) hrefs'
      refine ⟨r :: more, cons_subset_cons r hmore, ?_⟩
      simp only [foldlM_cons, hrow, bind, Except.bind]
      rw [hrest]
      simp [Database.put, Table.append]

lemma exec_insert (h : db.table n = some t) (hselect : select db = .ok rs) :
    exec fk db (.insert orIgnore n select) = rs.foldlM (insertRow fk orIgnore n) db := by
  simp only [exec, Database.find_of_some h, hselect]
  rfl

/-! ## Rebuilding a table -/

structure Rebuilt (n tmp : name) (t' : Table name) (db db' : Database name) : Prop where
  version : db'.version = db.version
  self : db'.table n = some t'
  gone : db'.table tmp = none
  other : ∀ m, m ≠ n → m ≠ tmp → db'.table m = db.table m
  objects : ∀ o ∈ db'.objects, o ∈ db.objects ∧ o.2 ≠ n ∨ (o.1, tmp) ∈ db.objects ∧ o.2 = n

/-- Rename, make anew, copy, drop. -/
lemma exec_rebuild (fk : Bool) (hne : n ≠ tmp)
    (h : db.table n = some t) (hfree : db.table tmp = none)
    (hselect : ∀ (db : Database name) u, db.table tmp = some u → select db = .ok (u.rows.map f))
    (hlawful : Lawful d (t.rows.map f)) (hrefs : fk = false ∨ d.references = []) :
    ∃ db', [.renameTable n tmp, .createTable false n d, .insert false n select,
        .dropTable tmp].foldlM (exec fk) db = .ok db' ∧
      Rebuilt n tmp ⟨d, t.rows.map f⟩ db db' ∧ ∀ o ∈ db'.objects, o.2 ≠ n := by
  let db₁ : Database name := { (db.put n none).put tmp (some t) with
    objects := db.objects.map fun o => if o.2 = n then (o.1, tmp) else o }
  let db₂ := db₁.put n (some ⟨d, []⟩)
  let db₃ := db₂.put n (some ⟨d, t.rows.map f⟩)
  have hfree₁ : db₁.table n = none := by
    change ((db.put n none).put tmp (some t)).table n = none
    rw [Database.put_of_ne _ hne, Database.put_self]
  have htmp₂ : db₂.table tmp = some t := by
    rw [Database.put_of_ne _ hne.symm]
    exact Database.put_self _
  have htmp₃ : db₃.table tmp = some t := by rw [Database.put_of_ne _ hne.symm, htmp₂]
  have hcopy : exec fk db₂ (.insert false n select) = .ok db₃ := by
    rw [exec_insert (Database.put_self _) (hselect db₂ t htmp₂),
      foldlM_insertRow _ (Database.put_self _) (by simpa using hlawful) hrefs]
    rfl
  let db₄ : Database name := { db₃.put tmp none with
    objects := db₁.objects.filter fun o => decide (o.2 ≠ tmp) }
  have hrun : [.renameTable n tmp, .createTable false n d, .insert false n select,
      .dropTable tmp].foldlM (exec fk) db = .ok db₄ := by
    simp only [foldlM_cons, foldlM_nil, exec_renameTable h hfree]
    change (exec fk db₁ _ >>= _) = _
    rw [exec_createTable d hfree₁]
    change (exec fk db₂ _ >>= _) = _
    rw [hcopy]
    change (exec fk db₃ _ >>= _) = _
    rw [exec_dropTable htmp₃]
    rfl
  -- what belonged to the old table was renamed with it and dropped with it
  have hobjects : ∀ o ∈ db₄.objects, o ∈ db.objects ∧ o.2 ≠ n := by
    intro o ho
    obtain ⟨ho, hkept⟩ := mem_filter.mp ho
    obtain ⟨o', ho', rfl⟩ := mem_map.mp ho
    by_cases hn : o'.2 = n
    · simp [hn] at hkept
    · rw [if_neg hn]
      exact ⟨ho', hn⟩
  refine ⟨db₄, hrun, ⟨rfl, ?_, Database.put_self _, fun m hn htmp => ?_, fun o ho => ?_⟩,
    fun o ho => (hobjects o ho).2⟩
  · change (db₃.put tmp none).table n = _
    rw [Database.put_of_ne _ hne, Database.put_self]
  · change (db₃.put tmp none).table m = _
    rw [Database.put_of_ne _ htmp, Database.put_of_ne _ hn, Database.put_of_ne _ hn]
    change ((db.put n none).put tmp (some t)).table m = _
    rw [Database.put_of_ne _ htmp, Database.put_of_ne _ hn]
  · exact .inl (hobjects o ho)

/-- Drop, and rename the copy that was filled before. Between the two the table is missing. -/
lemma exec_swap (fk : Bool) (t' : Table name) (hne : n ≠ tmp) (h : db.table n = some t) :
    ∃ db₁ db₂, exec fk (db.put tmp (some t')) (.dropTable n) = .ok db₁ ∧
      exec fk db₁ (.renameTable tmp n) = .ok db₂ ∧ db₁.version = db.version ∧
      db₁.table n = none ∧ db₁.table tmp = some t' ∧
      (∀ m, m ≠ n → m ≠ tmp → db₁.table m = db.table m) ∧ Rebuilt n tmp t' db db₂ := by
  have h' : (db.put tmp (some t')).table n = some t := by rw [Database.put_of_ne _ hne, h]
  let db₁ : Database name := { (db.put tmp (some t')).put n none with
    objects := db.objects.filter fun o => decide (o.2 ≠ n) }
  have hgone : db₁.table n = none := (db.put tmp (some t')).put_self none
  have htmp : db₁.table tmp = some t' := by
    change ((db.put tmp (some t')).put n none).table tmp = _
    rw [Database.put_of_ne _ hne.symm, Database.put_self]
  have hother : ∀ m, m ≠ n → m ≠ tmp → db₁.table m = db.table m := by
    intro m hn hm
    change ((db.put tmp (some t')).put n none).table m = _
    rw [Database.put_of_ne _ hn, Database.put_of_ne _ hm]
  refine ⟨db₁, _, exec_dropTable h', exec_renameTable htmp hgone, rfl, hgone, htmp, hother, ?_⟩
  refine ⟨rfl, (db₁.put tmp none).put_self _, ?_, fun m hn hm => ?_, ?_⟩
  · change ((db₁.put tmp none).put n (some t')).table tmp = none
    rw [Database.put_of_ne _ hne.symm, Database.put_self]
  · change ((db₁.put tmp none).put n (some t')).table m = _
    rw [Database.put_of_ne _ hn, Database.put_of_ne _ hm, hother m hn hm]
  · intro o ho
    obtain ⟨o', ho', rfl⟩ := mem_map.mp ho
    obtain ⟨hmem, hkept⟩ := mem_filter.mp ho'
    by_cases htmp' : o'.2 = tmp
    · rw [if_pos htmp']
      exact .inr ⟨htmp' ▸ hmem, rfl⟩
    · rw [if_neg htmp']
      exact .inl ⟨hmem, by simpa using hkept⟩

lemma exec_createIndex (h : db.table n = some t) (hfree : ∀ o ∈ db.objects, o.1 ≠ index) :
    exec fk db (.createIndex false index n none) = .ok (db.addObject index n) := by
  have hnamed : db.named index = false := by simpa [Database.named] using hfree
  simp only [exec, hnamed, Database.find_of_some h]
  rfl

lemma exec_createTrigger (h : db.table n = some t) (hfree : ∀ o ∈ db.objects, o.1 ≠ trigger) :
    exec fk db (.createTrigger false trigger n) = .ok (db.addObject trigger n) := by
  have hnamed : db.named trigger = false := by simpa [Database.named] using hfree
  simp only [exec, hnamed, Database.find_of_some h]
  rfl

end Lemmas

end AgentCore.Foundation.Sql
