import Ocg.Relational.Table

/-!
# Uncommitted writes over a table

A transaction sees the committed rows with its own writes over them, and commits by making what it
sees the table. Rows may link to rows of the same table, and a link must be in order: the row that
it names exists and fits. When two transactions have written rows apart from each other, each under
locks that cover what its new links name, then the links that are in order for either of them are in
order once both have committed. This is `LinksHold.merge`.
-/

namespace Relational

variable {ρ κ : Type*}

/-! ## Rows by key -/

section Lookup

variable [DecidableEq κ] (key : ρ → κ)

def lookup (rows : List ρ) (k : κ) : Option ρ := rows.find? fun r ↦ key r = k

/-- The row in the place of any row of its key. -/
def upsert (new : ρ) (rows : List ρ) : List ρ := new :: rows.filter fun r ↦ key r ≠ key new

/-- The writes, the last of them first, patch the rows. -/
def overlay (writes rows : List ρ) : List ρ := writes.foldr (upsert key) rows

variable {key}

theorem key_of_lookup {rows : List ρ} {k : κ} {r : ρ} (h : lookup key rows k = some r) :
    key r = k := by
  simpa using List.find?_some h

theorem mem_of_lookup {rows : List ρ} {k : κ} {r : ρ} (h : lookup key rows k = some r) :
    r ∈ rows :=
  List.mem_of_find?_eq_some h

theorem lookup_of_mem {rows : List ρ} (hkeys : (rows.map key).Nodup) {r : ρ} (hr : r ∈ rows) :
    lookup key rows (key r) = some r :=
  (find?_key_eq_some hkeys).2 ⟨hr, rfl⟩

theorem lookup_cons (r : ρ) (rows : List ρ) (k : κ) :
    lookup key (r :: rows) k = if key r = k then some r else lookup key rows k := by
  rw [lookup, List.find?_cons]
  by_cases hk : key r = k
  · simp [hk]
  · simp [hk, lookup]

theorem lookup_filter_ne {rows : List ρ} {k k' : κ} (hne : k ≠ k') :
    lookup key (rows.filter fun r ↦ key r ≠ k) k' = lookup key rows k' := by
  induction rows with
  | nil => rfl
  | cons r rows ih =>
    rw [lookup_cons, ← ih, List.filter_cons]
    by_cases hr : key r = k
    · simp [hr, hne]
    · simp [hr, lookup_cons]

theorem lookup_upsert (new : ρ) (rows : List ρ) (k : κ) :
    lookup key (upsert key new rows) k = if key new = k then some new else lookup key rows k := by
  rw [upsert, lookup_cons]
  split_ifs with hk
  · rfl
  · exact lookup_filter_ne hk

theorem nodup_keys_upsert (new : ρ) {rows : List ρ} (hkeys : (rows.map key).Nodup) :
    ((upsert key new rows).map key).Nodup := by
  rw [upsert, List.map_cons, List.nodup_cons]
  refine ⟨?_, nodup_keys_filter hkeys _⟩
  simp

theorem lookup_overlay (writes rows : List ρ) (k : κ) :
    lookup key (overlay key writes rows) k = (lookup key writes k).or (lookup key rows k) := by
  induction writes with
  | nil => rfl
  | cons w writes ih =>
    rw [overlay, List.foldr_cons, lookup_upsert, lookup_cons]
    split_ifs
    · rfl
    · exact ih

theorem nodup_keys_overlay (writes : List ρ) {rows : List ρ} (hkeys : (rows.map key).Nodup) :
    ((overlay key writes rows).map key).Nodup := by
  induction writes with
  | nil => exact hkeys
  | cons w writes ih => exact nodup_keys_upsert w ih

end Lookup

/-! ## Links -/

section Links

variable (link : ρ → Option κ) (fits same : ρ → ρ → Prop)

/-- Every link of the table names a row that fits, unless it is excused. -/
def LinksHold (excused : ρ → κ → Prop) (table : κ → Option ρ) : Prop :=
  ∀ k r p, table k = some r → link r = some p → excused r p ∨ ∃ q, table p = some q ∧ fits r q

/-- Every link of the writes either stood in the table already, or is covered by a lock. -/
def LinksCovered (locked : κ → Prop) (writes table : κ → Option ρ) : Prop :=
  ∀ k r p, writes k = some r → link r = some p →
    locked p ∨ ∃ r₀, table k = some r₀ ∧ link r₀ = some p ∧ same r₀ r

/-- The writes over the table. -/
def patch (writes table : κ → Option ρ) (k : κ) : Option ρ := (writes k).or (table k)

variable {link fits same}

theorem patch_lookup_cons [DecidableEq κ] {key : ρ → κ} (new : ρ) (writes : List ρ)
    (table : κ → Option ρ) :
    patch (lookup key (new :: writes)) table
      = Function.update (patch (lookup key writes) table) (key new) (some new) := by
  funext k
  rw [patch, lookup_cons]
  split_ifs with hk
  · rw [← hk, Function.update_self, Option.some_or]
  · rw [Function.update_of_ne (Ne.symm hk), patch]

theorem patch_of_none {writes table : κ → Option ρ} {k : κ} (h : writes k = none) :
    patch writes table k = table k := by
  rw [patch, h, Option.none_or]

theorem patch_of_some {writes table : κ → Option ρ} {k : κ} {r : ρ} (h : writes k = some r) :
    patch writes table k = some r := by
  rw [patch, h, Option.some_or]

theorem LinksHold.imp {excused excused' : ρ → κ → Prop} {table : κ → Option ρ}
    (h : LinksHold link fits excused table)
    (himp : ∀ k r p, table k = some r → link r = some p → excused r p → excused' r p) :
    LinksHold link fits excused' table := by
  intro k r p hr hp
  obtain hexcuse | hfit := h k r p hr hp
  · exact Or.inl (himp k r p hr hp hexcuse)
  · exact Or.inr hfit

/-- **Writing one row.** The link of the row must be in order, and so must be those that name it. -/
theorem LinksHold.write [DecidableEq κ] {excused excused' : ρ → κ → Prop} {table : κ → Option ρ}
    {k : κ} {new : ρ} (h : LinksHold link fits excused table)
    (himp : ∀ k' r p, k' ≠ k → table k' = some r → link r = some p → excused r p → excused' r p)
    (hsource : ∀ p, link new = some p →
      excused' new p ∨ ∃ q, Function.update table k (some new) p = some q ∧ fits new q)
    (htarget : ∀ k' r, k' ≠ k → table k' = some r → link r = some k →
      excused' r k ∨ fits r new) :
    LinksHold link fits excused' (Function.update table k (some new)) := by
  intro k' r p hr hp
  by_cases hk : k' = k
  · subst hk
    rw [Function.update_self] at hr
    obtain rfl := Option.some.inj hr
    exact hsource p hp
  · rw [Function.update_of_ne hk] at hr
    by_cases hpk : p = k
    · subst hpk
      obtain hexcuse | hfit := htarget k' r hk hr hp
      · exact Or.inl hexcuse
      · exact Or.inr ⟨new, Function.update_self _ _ _, hfit⟩
    · obtain hexcuse | ⟨q, hq, hfit⟩ := h k' r p hr hp
      · exact Or.inl (himp k' r p hk hr hp hexcuse)
      · exact Or.inr ⟨q, by rw [Function.update_of_ne hpk, hq], hfit⟩

/-- **Links of two writers.** The writes of one transaction are committed under those of another
that has written and locked other rows. -/
theorem LinksHold.merge {excused : ρ → κ → Prop} {table writes writes' : κ → Option ρ}
    {locked locked' : κ → Prop}
    (hfits : ∀ r₀ r q, same r₀ r → fits r₀ q → fits r q)
    (hexcused : ∀ r₀ r p, same r₀ r → excused r₀ p → excused r p)
    (hlocked : ∀ k r, writes k = some r → locked k)
    (hlocked' : ∀ k r, writes' k = some r → locked' k)
    (hapart : ∀ k, locked k → ¬ locked' k)
    (hcovered : LinksCovered link same locked writes table)
    (hcovered' : LinksCovered link same locked' writes' table)
    (h : LinksHold link fits (fun _ _ ↦ False) (patch writes table))
    (h' : LinksHold link fits excused (patch writes' table)) :
    LinksHold link fits excused (patch writes' (patch writes table)) := by
  have hsome {k : κ} {r : ρ} (hr : writes' k = some r) : writes k = none := by
    cases hw : writes k with
    | none => rfl
    | some w => exact absurd (hlocked' k r hr) (hapart k (hlocked k w hw))
  intro k r p hr hp
  cases hwrite' : writes' k with
  | some r' =>
    rw [patch_of_some hwrite'] at hr
    obtain rfl := Option.some.inj hr
    obtain hexcuse | ⟨q, hq, hfit⟩ := h' k r' p (patch_of_some hwrite') hp
    · exact Or.inl hexcuse
    · cases htarget' : writes' p with
      | some q' =>
        rw [patch_of_some htarget'] at hq
        exact Or.inr ⟨q, by rw [patch_of_some htarget', hq], hfit⟩
      | none =>
        rw [patch_of_none htarget'] at hq
        cases htarget : writes p with
        | none => exact Or.inr ⟨q, by rw [patch_of_none htarget', patch_of_none htarget, hq], hfit⟩
        | some q' =>
          -- the link is old, since the other transaction holds the row that it names
          obtain hlock | ⟨r₀, hr₀, hp₀, hsame⟩ := hcovered' k r' p hwrite' hp
          · exact absurd hlock (hapart p (hlocked p q' htarget))
          · obtain hfalse | ⟨q₀, hq₀, hfit₀⟩ :=
              h k r₀ p (by rw [patch_of_none (hsome hwrite'), hr₀]) hp₀
            · exact hfalse.elim
            · exact Or.inr ⟨q₀, by rw [patch_of_none htarget', hq₀], hfits r₀ r' q₀ hsame hfit₀⟩
  | none =>
    rw [patch_of_none hwrite'] at hr
    obtain hfalse | ⟨q, hq, hfit⟩ := h k r p hr hp
    · exact hfalse.elim
    · cases htarget' : writes' p with
      | none => exact Or.inr ⟨q, by rw [patch_of_none htarget', hq], hfit⟩
      | some q' =>
        -- a link from a row that stood in the table before
        have hold (r₀ : ρ) (hr₀ : table k = some r₀) (hp₀ : link r₀ = some p) :
            excused r₀ p ∨ ∃ q, patch writes' (patch writes table) p = some q ∧ fits r₀ q := by
          obtain hexcuse | ⟨q₀, hq₀, hfit₀⟩ := h' k r₀ p (by rw [patch_of_none hwrite', hr₀]) hp₀
          · exact Or.inl hexcuse
          · rw [patch_of_some htarget'] at hq₀
            exact Or.inr ⟨q₀, by rw [patch_of_some htarget', hq₀], hfit₀⟩
        cases hwrite : writes k with
        | none =>
          rw [patch_of_none hwrite] at hr
          exact hold r hr hp
        | some w =>
          rw [patch_of_some hwrite] at hr
          obtain rfl := Option.some.inj hr
          obtain hlock | ⟨r₀, hr₀, hp₀, hsame⟩ := hcovered k w p hwrite hp
          · exact absurd (hlocked' p q' htarget') (hapart p hlock)
          · obtain hexcuse | ⟨q₀, hq₀, hfit₀⟩ := hold r₀ hr₀ hp₀
            · exact Or.inl (hexcused r₀ w p hsame hexcuse)
            · exact Or.inr ⟨q₀, hq₀, hfits r₀ w q₀ hsame hfit₀⟩

/-- The links of a transaction stay covered when another one commits rows that it has not locked. -/
theorem LinksCovered.commit {table writes writes' : κ → Option ρ} {locked' : κ → Prop}
    (hlocked' : ∀ k r, writes' k = some r → locked' k)
    (hapart : ∀ k, locked' k → writes k = none)
    (hcovered' : LinksCovered link same locked' writes' table) :
    LinksCovered link same locked' writes' (patch writes table) := by
  intro k r p hr hp
  rw [patch_of_none (hapart k (hlocked' k r hr))]
  exact hcovered' k r p hr hp

end Links

end Relational
