import ApiModel.Proofs.Endpoint.Paging
import ApiModel.Proofs.Naming.Snake

/-!
# The names of cursors

Rules name the properties that may hold a cursor.  The name of a property is compared in snake case,
but a name of the rules is compared as it is written.  So a name of the rules may miss the property
of that very name: it recognises it exactly if its snake case form is one of the names as well
(`PagingRules.recognises_iff`).  Names that are written in snake case do so.
-/

namespace ApiModel.PagingRules

variable {rules : PagingRules} {name : String} {m : Method}

/-- The snake case form of a name. -/
def snakeName (name : String) : String :=
  String.ofList (Text.snake name.toList)

/-- Every endpoint that fetches a collection is paged if its page has a property of a name and some
list. -/
def Recognises (rules : PagingRules) (name : String) : Prop :=
  ∀ r e properties, FetchesCollection rules e → HasPage r e properties →
    name ∈ Entries.keys properties → (∃ p ∈ properties, ListValued r p.2) →
      (rules.infer r e).paged = true

theorem recognises_of_namesCursor (h : NamesCursor rules name) : Recognises rules name :=
  fun r e properties hf hp hname hlist =>
    (classifies_infer rules r e).paged_iff.2 ⟨hf, properties, hp, hlist, name, hname, h⟩

theorem recognises_of_no_method (h : ∀ m, rules.allowsMethod m = false) : Recognises rules name := by
  intro r e properties hf
  have hm := fetchesCollection_iff.2 hf
  rw [h, Bool.false_and] at hm
  cases hm

/-- A page that has one list and nothing else. -/
def listPage (name : String) : Schema where
  type := some (.single .object)
  properties := [(name, .inline { type := some (.single .array) })]

/-- The endpoint of a method that answers with such a page. -/
def listEvents (m : Method) (name : String) : Endpoint :=
  { events (.inline (listPage name)) with method := m }

theorem fetchesCollection_listEvents (hm : rules.allowsMethod m = true) :
    FetchesCollection rules (listEvents m name) := by
  have hplural : endsPlural (Route.segments "/events") = true := by decide +kernel
  have hopen : ((Route.segments "/events").getLast?.any Route.isParameter) = false := by
    decide +kernel
  refine fetchesCollection_iff.1 ?_
  change (rules.allowsMethod m && rules.isCollection _ "/events") = true
  rw [hm, isCollection, hopen, hplural]
  simp

theorem hasPage_listEvents :
    HasPage {} (listEvents m name) (listPage name).properties :=
  ⟨_, successBody_events _, .object .inline rfl⟩

/-- **Only a name in snake case is seen**, if some method is eligible. -/
theorem namesCursor_of_recognises (hm : rules.allowsMethod m = true) (h : Recognises rules name) :
    NamesCursor rules name := by
  -- the page has one property only, so the cursor that makes it paged has the name itself
  have hpaged := h {} (listEvents m name) _ (fetchesCollection_listEvents hm) hasPage_listEvents
    (List.mem_singleton_self name) ⟨_, List.mem_singleton_self _, _, .inline, rfl⟩
  obtain ⟨-, properties, hp, -, cursor, hcursor, hnames⟩ :=
    (classifies_infer rules {} _).paged_iff.1 hpaged
  obtain rfl := hp.eq hasPage_listEvents
  obtain rfl := List.mem_singleton.1 hcursor
  exact hnames

/-- **Which names recognise themselves**: if some method is eligible, those whose snake case form is
a name of the rules.  A name of the rules that is the snake case form of an ASCII text is its own, so
it recognises that text and itself. -/
theorem recognises_iff (rules : PagingRules) (name : String) :
    (Recognises rules name ↔ (∀ m, rules.allowsMethod m = false) ∨ NamesCursor rules name) ∧
      (Text.Ascii name.toList → snakeName name ∈ rules.cursorFields →
        Recognises rules name ∧ Recognises rules (snakeName name)) := by
  refine ⟨⟨fun h => ?_, ?_⟩, fun hascii hmem => ?_⟩
  · by_cases hm : ∃ m, rules.allowsMethod m = true
    · obtain ⟨m, hm⟩ := hm
      exact .inr (namesCursor_of_recognises hm h)
    · exact .inl fun m => Bool.eq_false_iff.2 fun h => hm ⟨m, h⟩
  · rintro (h | h)
    · exact recognises_of_no_method h
    · exact recognises_of_namesCursor h
  · have hsnake : snakeName (snakeName name) = snakeName name := by
      rw [snakeName, snakeName, String.toList_ofList, Text.snake_snake hascii]
    refine ⟨recognises_of_namesCursor hmem, recognises_of_namesCursor ?_⟩
    rw [NamesCursor, ← snakeName, hsnake]
    exact hmem

/-- Rules with a name in snake case. -/
def snakeRules : PagingRules where
  cursorFields := ["next_http_page"]

theorem recognises_iff_snake :
    snakeName "nextHTTPPage" = "next_http_page" ∧
      Recognises snakeRules "nextHTTPPage" ∧ Recognises snakeRules (snakeName "nextHTTPPage") := by
  have hname : snakeName "nextHTTPPage" = "next_http_page" := by decide +kernel
  have hmem : snakeName "nextHTTPPage" ∈ snakeRules.cursorFields := hname ▸ List.mem_singleton_self _
  exact ⟨hname, (recognises_iff snakeRules "nextHTTPPage").2 (by decide +kernel) hmem⟩

/-- Rules with a name in camel case. -/
def camelRules : PagingRules where
  cursorFields := ["nextCursor"]

/-- A page with a property of that name beside a list. -/
def camelPage : Schema where
  type := some (.single .object)
  properties :=
    [("data", .inline { type := some (.single .array) }),
      ("nextCursor", .inline { type := some (.single .string) })]

/-- **A name in camel case misses its own property.** -/
theorem not_recognises_camel :
    infer camelRules {} (events (.inline camelPage)) = ⟨"getEvents", false, none, none⟩ ∧
      ¬ ∀ name ∈ camelRules.cursorFields, Recognises camelRules name := by
  have hint : infer camelRules {} (events (.inline camelPage)) = ⟨"getEvents", false, none, none⟩ := by
    decide +kernel
  have hf : FetchesCollection camelRules (events (.inline camelPage)) :=
    fetchesCollection_iff.1 (by decide +kernel)
  have hp : HasPage {} (events (.inline camelPage)) camelPage.properties :=
    ⟨_, successBody_events _, .object .inline rfl⟩
  refine ⟨hint, fun h => ?_⟩
  have hpaged := h "nextCursor" (List.mem_singleton_self _) {} _ _ hf hp (by decide)
    ⟨_, List.mem_cons_self, _, .inline, rfl⟩
  rw [hint] at hpaged
  cases hpaged

end ApiModel.PagingRules
