import Mathlib.Data.List.Basic

/-!
# Pages

A source hands out its items page by page, and with a page the cursor of the next one, as
long as there is one. It may be in another state whenever it is asked.

> `Paged.unique`: what is paged through is determined by the states.
> `paged_view_iff`: a view of a source, which drops items and hands out its cursors as
> tokens, can be paged through exactly as the source can, and shows exactly what of the
> source's items it does not drop; whatever pages these are on. The tokens have to be read
> back.

Nothing here mentions a particular system.
-/

namespace CodexAcp.Lib

structure Page (κ : Type u) (α : Type v) where
  items : List α
  next : Option κ

/-- Something that hands out pages, from the start or from a cursor on. -/
abbrev Pager (σ : Type w) (κ : Type u) (ε : Type x) (α : Type v) :=
  σ → Option κ → Except ε (Page κ α)

section

variable {σ : Type w} {κ : Type u} {ε : Type x} {α : Type v}

/-- Asked in these states, one after the other and each time from the cursor of the last page,
until there is none, the source hands out these items; each in the state it was asked in. -/
inductive Paged (source : Pager σ κ ε α) : List σ → Option κ → List (σ × α) → Prop where
  | last {s : σ} {start : Option κ} {page : Page κ α} (h : source s start = .ok page)
    (hnext : page.next = none) : Paged source [s] start (page.items.map (s, ·))
  | more {s : σ} {states : List σ} {start : Option κ} {page : Page κ α} {next : κ}
    {rest : List (σ × α)} (h : source s start = .ok page) (hnext : page.next = some next)
    (hrest : Paged source states (some next) rest) :
    Paged source (s :: states) start (page.items.map (s, ·) ++ rest)

theorem Paged.unique {source : Pager σ κ ε α} {states : List σ} {start : Option κ}
    {items items' : List (σ × α)} (h : Paged source states start items)
    (h' : Paged source states start items') : items = items' := by
  induction h generalizing items' with
  | last hpage hnext =>
    cases h' with
    | last hpage' hnext' =>
      cases hpage.symm.trans hpage'
      rfl
    | more hpage' hnext' hrest' => cases hrest'
  | more hpage hnext hrest ih =>
    cases h' with
    | last hpage' hnext' => cases hrest
    | more hpage' hnext' hrest' =>
      cases hpage.symm.trans hpage'
      cases hnext.symm.trans hnext'
      rw [ih hrest']

end

/-! ## Views -/

section

variable {σ : Type w} {κ : Type u} {τ : Type u'} {ε : Type x} {α : Type v} {β : Type v'}

/-- What a view shows of a page. -/
def Page.view (show' : α → Option β) (token : κ → Option τ) (page : Page κ α) : Page τ β :=
  { items := page.items.filterMap show', next := page.next.bind token }

variable {source : Pager σ κ ε α} {shown : σ → α → Option β} {token : κ → Option τ}
  {cursor : τ → Option κ} {view : Pager σ τ ε β}

/-- An item that is shown, in the state it was asked for in. -/
def shownIn (shown : σ → α → Option β) (item : σ × α) : Option (σ × β) :=
  (shown item.1 item.2).map (item.1, ·)

theorem filterMap_shownIn (s : σ) (items : List α) :
    (items.map (s, ·)).filterMap (shownIn shown) = (items.filterMap (shown s)).map (s, ·) := by
  rw [List.filterMap_map, List.map_filterMap]
  rfl

/-- A view of a source, which reads back the cursors it hands out. -/
structure IsView (source : Pager σ κ ε α) (view : Pager σ τ ε β) (shown : σ → α → Option β)
    (token : κ → Option τ) (cursor : τ → Option κ) : Prop where
  eq : ∀ s start, view s start = (source s (start.bind cursor)).map (Page.view (shown s) token)
  readBack : ∀ k, ∃ t, token k = some t ∧ cursor t = some k

theorem IsView.ok_of_source (h : IsView source view shown token cursor) {s : σ}
    {start : Option τ} {page : Page κ α} (hpage : source s (start.bind cursor) = .ok page) :
    view s start = .ok (page.view (shown s) token) := by
  rw [h.eq, hpage]
  rfl

theorem IsView.source_of_ok (h : IsView source view shown token cursor) {s : σ}
    {start : Option τ} {page' : Page τ β} (hpage : view s start = .ok page') :
    ∃ page, source s (start.bind cursor) = .ok page ∧ page' = page.view (shown s) token := by
  rw [h.eq] at hpage
  cases hsource : source s (start.bind cursor) with
  | error err =>
    rw [hsource] at hpage
    cases hpage
  | ok page =>
    rw [hsource] at hpage
    cases hpage
    exact ⟨page, rfl, rfl⟩

/-- There is a next page of the view if there is one of the source. -/
theorem IsView.next_iff (h : IsView source view shown token cursor) {s : σ} {page : Page κ α} :
    (page.view (shown s) token).next = none ↔ page.next = none := by
  unfold Page.view
  cases page.next with
  | none => exact iff_of_true rfl rfl
  | some next =>
    obtain ⟨t, htoken, -⟩ := h.readBack next
    show token next = none ↔ _
    rw [htoken]
    simp

/-- What the source hands out is shown, -/
theorem Paged.view_of_source (h : IsView source view shown token cursor) {states : List σ}
    {start : Option κ} {items : List (σ × α)} (hpaged : Paged source states start items)
    {start' : Option τ} (hstart : start'.bind cursor = start) :
    Paged view states start' (items.filterMap (shownIn shown)) := by
  induction hpaged generalizing start' with
  | last hpage hnext =>
    rw [filterMap_shownIn]
    rw [← hstart] at hpage
    exact Paged.last (h.ok_of_source hpage) (h.next_iff.mpr hnext)
  | @more s states start page next rest hpage hnext hrest ih =>
    obtain ⟨t, htoken, hcursor⟩ := h.readBack next
    rw [List.filterMap_append, filterMap_shownIn]
    rw [← hstart] at hpage
    refine Paged.more (h.ok_of_source hpage) ?_ (ih hcursor)
    rw [Page.view, hnext]
    exact htoken

/-- and nothing else is. -/
theorem Paged.source_of_view (h : IsView source view shown token cursor) {states : List σ}
    {start' : Option τ} {items' : List (σ × β)} (hpaged : Paged view states start' items') :
    ∃ items, Paged source states (start'.bind cursor) items := by
  induction hpaged with
  | last hpage hnext =>
    obtain ⟨page, hsource, rfl⟩ := h.source_of_ok hpage
    exact ⟨_, Paged.last hsource (h.next_iff.mp hnext)⟩
  | more hpage hnext hrest ih =>
    obtain ⟨page, hsource, rfl⟩ := h.source_of_ok hpage
    obtain ⟨next, hnext', htoken⟩ := Option.bind_eq_some_iff.mp hnext
    obtain ⟨t, htoken', hcursor⟩ := h.readBack next
    cases htoken.symm.trans htoken'
    obtain ⟨items, hitems⟩ := ih
    rw [Option.bind_some, hcursor] at hitems
    exact ⟨_, Paged.more hsource hnext' hitems⟩

/-- **A view** shows what its source hands out, less what it drops. -/
theorem paged_view_iff (h : IsView source view shown token cursor) {states : List σ}
    {items' : List (σ × β)} :
    Paged view states none items' ↔
      ∃ items, Paged source states none items ∧ items' = items.filterMap (shownIn shown) := by
  constructor
  · intro hview
    obtain ⟨items, hitems⟩ := hview.source_of_view h
    exact ⟨items, hitems, hview.unique (hitems.view_of_source h rfl)⟩
  · rintro ⟨items, hitems, rfl⟩
    exact hitems.view_of_source h rfl

end

end CodexAcp.Lib
