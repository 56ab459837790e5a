import Widgetry.Proofs.Page.Failure
import Widgetry.Proofs.Page.Independence
import Widgetry.Proofs.Rule.Conformance

/-!
# Where messages come from

An embedded page sends messages with its origin, the part of its address that ends with the host. A
message is kept if its origin stands anywhere in the address that the widget embeds. So the messages
of the embedded page itself are kept, and a message that is not kept changes nothing. But whatever
else stands in the address passes for an origin too: a host that is cut short, a part of the path,
and the empty text, which is the origin of no address of the web.
-/

namespace Widgetry

/-- The origin of an address: what comes before the first slash, question mark or number sign after
`://`. -/
def webOrigin (address : String) : String :=
  match Text.cut? "://".toList address.toList with
  | some (scheme, rest) =>
    .ofList (scheme ++ "://".toList ++ rest.takeWhile fun c => c ∉ ['/', '?', '#'])
  | none => address

theorem webOrigin_prefix (address : String) :
    (webOrigin address).toList <+: address.toList := by
  unfold webOrigin
  split
  next scheme rest h =>
    rw [Text.eq_append_of_cut? h, String.toList_ofList, List.prefix_append_right_inj]
    exact List.takeWhile_prefix _
  next => exact List.prefix_refl _

/-- An address of the web has an origin. -/
theorem webOrigin_ne_empty {address : String} (h : IsWebAddress address) :
    webOrigin address ≠ "" := by
  unfold webOrigin
  split
  next =>
    intro hempty
    have hlist := congrArg String.toList hempty
    simp at hlist
  next =>
    rintro rfl
    obtain ⟨scheme, rest, happend, hscheme⟩ := h
    obtain ⟨rfl, -⟩ := List.append_eq_nil_iff.1 happend.symm
    rcases hscheme with hscheme | hscheme <;> cases hscheme

namespace Page

/-- The update that keeps a message. -/
def keepMessage (id : WidgetId) (data : Json) : Attempt Updated :=
  update id "message" data (some (.on "onMessageReceived" .iframeMessageReceived))

section Embedded

variable {page : Page} {id : WidgetId} {w : Instance} (hw : page.widget? id = some w)
  (hkind : w.kind = .iframe)

include hw hkind

/-- A message is kept if its origin stands in the address that the widget embeds. -/
theorem runOn_receiveMessage {source : String}
    (hsource : (page.resolvedOf w).1.get? "source" = some (.str source)) (origin : String)
    (data : Json) :
    runOn (receiveMessage id origin data) page =
      if Text.occursIn origin.toList source.toList then
        match runOn (keepMessage id data) page with
        | (.ok updated, page') => (.ok (some updated), page')
        | (.error e, page') => (.error e, page')
      else (.ok none, page) := by
  have hsame : (page.resolvedOf w).2 = page :=
    page.resolvedOf_snd (not_mayDraw (by simp [hkind]))
  rw [receiveMessage_eq, runOn_updateWhen, (ofKind_eq_ok_iff page _ id w).2 ⟨hw, hkind⟩]
  dsimp only
  rw [hsource, hsame, keepMessage, runOn_update]
  refine if_congr Iff.rfl ?_ rfl
  cases page.place id "message" <;> rfl

end Embedded

/-- What receiving a message comes to, on a page that is reached from an empty one, for a widget that
embeds an address of the web. It never fails. The message is kept exactly if its origin stands
somewhere in the address. If it is kept, it is written and nothing else, save that its action may be
asked for; if it is not kept, the page stays as it is. The origin of the address is a beginning of
it, so that its messages are kept. A message from any other origin, be it the empty text, is
ignored exactly if the origin stands nowhere in the address. -/
theorem received_after_empty (config : Config) (canRun : Bool) (keys : KeySupply)
    (ops : List Operation) {id : WidgetId} {w : Instance}
    (hw : ((empty config canRun keys).after ops).widget? id = some w) (hkind : w.kind = .iframe)
    {properties : Fields} {source : String}
    (hresolved : (runOn (resolved id) ((empty config canRun keys).after ops)).1 = .ok properties)
    (hsource : properties.get? "source" = some (.str source)) (hweb : IsWebAddress source)
    (origin : String) (data : Json) :
    let page := (empty config canRun keys).after ops
    ∃ received page',
      runOn (receiveMessage id origin data) page = (.ok received, page') ∧
      (received.isSome = true ↔ origin.toList <:+: source.toList) ∧
      (∀ updated, received = some updated →
        page.UpdatesTo id "message" data (some (.on "onMessageReceived" .iframeMessageReceived))
          updated page') ∧
      (received = none → page' = page) ∧
      (webOrigin source).toList <+: source.toList ∧ webOrigin source ≠ "" ∧
      ((received.isSome = true → origin = webOrigin source) ↔
        origin = webOrigin source ∨ ¬origin.toList <:+: source.toList) := by
  intro page
  have hconsistent : page.contents.Consistent :=
    consistent_after (consistent_empty config canRun keys) ops
  obtain rfl : (page.resolvedOf w).1 = properties :=
    Except.ok.inj ((runOn_resolved_fst hw).symm.trans hresolved)
  have hofKind := (ofKind_eq_ok_iff ((empty config canRun keys).after ops) _ id w).2 ⟨hw, hkind⟩
  have hreceive := runOn_receiveMessage hw hkind hsource origin data
  have hiff {received : Option Updated}
      (h : received.isSome = true ↔ origin.toList <:+: source.toList) :
      (received.isSome = true → origin = webOrigin source) ↔
        origin = webOrigin source ∨ ¬origin.toList <:+: source.toList := by
    rw [h, imp_iff_not_or, or_comm]
  by_cases hpart : origin.toList <:+: source.toList
  · obtain ⟨updated, page', hkeep, hupdates⟩ := exists_runOn_update hconsistent hofKind
      (show (KeyCategory.of .iframe "message").isWritable = true by decide) data
      (some (.on "onMessageReceived" .iframeMessageReceived))
    rw [← keepMessage] at hkeep
    have hsome : (some updated).isSome = true ↔ origin.toList <:+: source.toList :=
      iff_of_true rfl hpart
    rw [if_pos (Text.occursIn_iff.2 hpart), hkeep] at hreceive
    refine ⟨some updated, page', hreceive, hsome, ?_, nofun, webOrigin_prefix source,
      webOrigin_ne_empty hweb, hiff hsome⟩
    intro updated' heq
    obtain rfl := Option.some.inj heq
    exact hupdates
  · have hnone : (none : Option Updated).isSome = true ↔ origin.toList <:+: source.toList :=
      iff_of_false Bool.false_ne_true hpart
    rw [if_neg (mt Text.occursIn_iff.1 hpart)] at hreceive
    exact ⟨none, page, hreceive, hnone, nofun, fun _ => rfl, webOrigin_prefix source,
      webOrigin_ne_empty hweb, hiff hnone⟩

/-- A message from the page that a widget embeds. -/
theorem received_after_empty_own :
    let w : Instance :=
      ⟨⟨1⟩, "Frame", .iframe, none, [("source", .str "https://example.com/embed")]⟩
    let page := (empty {} true (.counting [])).after [.mount w]
    (page.widget? w.id = some w ∧ w.kind = .iframe ∧
      (runOn (resolved w.id) page).1 = .ok w.properties ∧
      IsWebAddress "https://example.com/embed") ∧
    ∃ updated page',
      runOn (receiveMessage w.id "https://example.com" (.str "hi")) page =
        (.ok (some updated), page') ∧
      runOn (read w.id "message") page' = (.ok (.str "hi"), page') := by
  intro w page
  have hweb : IsWebAddress "https://example.com/embed" :=
    ⟨"https://".toList, "example.com/embed".toList, rfl, Or.inr rfl⟩
  have hpart : "https://example.com".toList <:+: "https://example.com/embed".toList :=
    ⟨[], "/embed".toList, rfl⟩
  obtain ⟨received, page', hreceive, hiff, hkept, -⟩ :=
    received_after_empty {} true (.counting []) [.mount w] (show page.widget? w.id = some w from rfl)
      rfl rfl rfl hweb "https://example.com" (.str "hi")
  obtain ⟨updated, rfl⟩ := Option.isSome_iff_exists.1 (hiff.2 hpart)
  have hread := (hkept updated rfl).reads w.id "message"
  rw [if_pos ⟨rfl, rfl⟩] at hread
  exact ⟨⟨rfl, rfl, rfl, hweb⟩, updated, page', hreceive, hread⟩

/-- A message from a host whose name is the beginning of the embedded one, which is not ignored. -/
theorem received_from_other_origin :
    let w : Instance :=
      ⟨⟨1⟩, "Frame", .iframe, none, [("source", .str "https://example.com/embed")]⟩
    let page := (empty {} true (.counting [])).after [.mount w]
    page.widget? w.id = some w ∧ w.kind = .iframe ∧
      (runOn (resolved w.id) page).1 = .ok w.properties ∧
      IsWebAddress "https://example.com/embed" ∧
      webOrigin "https://example.com/embed" = "https://example.com" ∧
      ∃ page',
        runOn (receiveMessage w.id "https://example.co" (.str "hi")) page =
          (.ok (some ⟨.null, false⟩), page') ∧
        page'.states.read w.id "message" = .str "hi" :=
  ⟨rfl, rfl, rfl, ⟨"https://".toList, "example.com/embed".toList, rfl, Or.inr rfl⟩, rfl, _, rfl, rfl⟩

end Page

end Widgetry
