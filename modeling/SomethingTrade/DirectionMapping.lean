import SomethingTrade.Decimal
import SomethingTrade.MarketWindows

/-!
# Tokens of the Directions

A market lists its outcomes, each with its token, and the tokens of the directions are found by
their texts: an outcome that names a direction gives it its token, and `Yes` and `No` do so when
the question says which direction is asked for. One loop fills a slot for each of up, down, yes
and no; a later outcome of the same kind overwrites an earlier one.

## Representation

* Lower case, and which characters words are made of, depend on tables of the language beyond
  ASCII, so they are a parameter (`TextRules`).

## Main results

* `scanOutcomes_eq`: each slot has the token of the last outcome of its kind.
* `direction_mapping_iff`: when the order of the outcomes does not matter and no other token has
  the direction of a token that was found.
-/

namespace SomethingTrade

/-! ### Texts -/

/-- How text is read: in lower case, and which characters words are made of. -/
structure TextRules where
  lower : String → String
  isWord : Char → Bool

/-- The rules of ASCII. -/
def asciiRules : TextRules := ⟨lower, isWordChar⟩

/-- What an outcome says. -/
inductive OutcomeKind
  | direct (direction : GapDirection)
  | yes
  | no
  deriving DecidableEq

/-- The outcomes that say up. -/
def upOutcomes : List String := ["up", "above", "higher"]

/-- The outcomes that say down. -/
def downOutcomes : List String := ["down", "below", "lower"]

/-- An outcome without surrounding white space, in lower case, with blanks for dashes. -/
def normalizeOutcome (rules : TextRules) (outcome : String) : String :=
  let lowered := rules.lower (String.ofList (Decimal.strip outcome.toList))
  String.ofList (lowered.toList.map fun c => if c == '_' || c == '-' then ' ' else c)

/-- What an outcome says, if it is supported. -/
def outcomeKind (rules : TextRules) (outcome : String) : Option OutcomeKind :=
  let normalized := normalizeOutcome rules outcome
  if normalized = "yes" then some .yes
  else if normalized = "no" then some .no
  else if normalized ∈ upOutcomes then some (.direct .up)
  else if normalized ∈ downOutcomes then some (.direct .down)
  else none

/-- Whether a word starts or ends between two characters. -/
def TextRules.isBoundary (rules : TextRules) (before after : Option Char) : Bool :=
  before.any rules.isWord != after.any rules.isWord

/-- Whether a term occurs in a text between boundaries. -/
def findTerm (rules : TextRules) (term : List Char) (before : Option Char) : List Char → Bool
  | [] => false
  | c :: cs =>
      term.isPrefixOf (c :: cs) && rules.isBoundary before c &&
          rules.isBoundary term.getLast? ((c :: cs).drop term.length).head? ||
        findTerm rules term (some c) cs

/-- Whether one of some terms occurs in a text. -/
def directionMatches (rules : TextRules) (text : String) (terms : List String) : Bool :=
  terms.any fun term => findTerm rules term.toList none text.toList

/-- The direction that `Yes` stands for, if the texts of the market name just one. -/
def inferYesDirection (rules : TextRules) (question slug description : String) :
    Option GapDirection :=
  let text := rules.lower (question ++ " " ++ slug ++ " " ++ description)
  let upMatches := directionMatches rules text upOutcomes
  let downMatches := directionMatches rules text downOutcomes
  if upMatches && !downMatches then some .up
  else if downMatches && !upMatches then some .down
  else none

/-! ### The mapping -/

/-- The tokens of the directions, or why there are none. -/
structure DirectionMapping where
  upTokenId : Option String
  downTokenId : Option String
  yesTokenId : Option String
  noTokenId : Option String
  rejectReason : Option String
  deriving DecidableEq

/-- The token of each kind of outcome, as found so far. -/
structure OutcomeSlots where
  up : Option String
  down : Option String
  yes : Option String
  no : Option String

namespace OutcomeSlots

/-- Nothing found yet. -/
def empty : OutcomeSlots := ⟨none, none, none, none⟩

/-- The token of a kind. -/
def get (slots : OutcomeSlots) : OutcomeKind → Option String
  | .direct .up => slots.up
  | .direct .down => slots.down
  | .yes => slots.yes
  | .no => slots.no

/-- Write the token of a kind. -/
def put (slots : OutcomeSlots) (kind : OutcomeKind) (tokenId : String) : OutcomeSlots :=
  match kind with
  | .direct .up => { slots with up := some tokenId }
  | .direct .down => { slots with down := some tokenId }
  | .yes => { slots with yes := some tokenId }
  | .no => { slots with no := some tokenId }

/-- What the slots say: direct outcomes first, else `Yes` and `No` by the question. -/
def conclude (slots : OutcomeSlots) (yesDirection : Option GapDirection) : DirectionMapping :=
  if slots.up.isSome && slots.down.isSome then
    ⟨slots.up, slots.down, slots.yes, slots.no, none⟩
  else if slots.yes.isSome && slots.no.isSome then
    match yesDirection with
    | some .up => ⟨slots.yes, slots.no, slots.yes, slots.no, none⟩
    | some .down => ⟨slots.no, slots.yes, slots.yes, slots.no, none⟩
    | none => ⟨none, none, slots.yes, slots.no, some "no_direction_mapping"⟩
  else ⟨none, none, none, none, some "no_direction_mapping"⟩

theorem get_put (slots : OutcomeSlots) (kind kind' : OutcomeKind) (tokenId : String) :
    (slots.put kind tokenId).get kind' = if kind = kind' then some tokenId else slots.get kind' := by
  cases kind with
  | direct direction => cases direction <;> rcases kind' with (_ | _) | _ | _ <;> rfl
  | yes => rcases kind' with (_ | _) | _ | _ <;> rfl
  | no => rcases kind' with (_ | _) | _ | _ <;> rfl

end OutcomeSlots

/-- Go through the outcomes, up to one that is not supported. -/
def scanOutcomes (rules : TextRules) : List (String × String) → OutcomeSlots →
    Except String OutcomeSlots
  | [], slots => .ok slots
  | (tokenId, outcome) :: rest, slots =>
      match outcomeKind rules outcome with
      | some kind => scanOutcomes rules rest (slots.put kind tokenId)
      | none => .error ("unsupported_outcome:" ++ outcome)

/-- Find the tokens of the directions. -/
def mapDirectionTokens (rules : TextRules) (tokenOutcomes : Dict String String)
    (question slug description : String) : DirectionMapping :=
  match scanOutcomes rules tokenOutcomes.entries .empty with
  | .error reason => ⟨none, none, none, none, some reason⟩
  | .ok slots => slots.conclude (inferYesDirection rules question slug description)

example : mapDirectionTokens asciiRules (.ofList [("a", " YES "), ("b", "No")])
    "Will BTC close below 100?" "" "" = ⟨some "b", some "a", some "a", some "b", none⟩ := by
  decide +kernel

/-! ### What is wanted of it -/

/-- The direction an outcome stands for. -/
def outcomeDirection (rules : TextRules) (yesDirection : Option GapDirection)
    (outcome : String) : Option GapDirection :=
  match outcomeKind rules outcome with
  | some (.direct direction) => some direction
  | some .yes => yesDirection
  | some .no => yesDirection.map fun
      | .up => .down
      | .down => .up
  | none => none

/-- Two mappings have the same tokens, or both are rejected. -/
def SameMapping (first second : DirectionMapping) : Prop :=
  (first.rejectReason = none ∧ first = second) ∨
    (first.rejectReason ≠ none ∧ second.rejectReason ≠ none)

/-- The order in which the outcomes are listed does not matter. -/
def OrderIndependent (rules : TextRules) (tokenOutcomes : Dict String String)
    (question slug description : String) : Prop :=
  ∀ listed : Dict String String, listed.entries.Perm tokenOutcomes.entries →
    SameMapping (mapDirectionTokens rules tokenOutcomes question slug description)
      (mapDirectionTokens rules listed question slug description)

/-- A mapping that is accepted has distinct tokens of the market for the two directions, and no
other token has the direction of one of them. -/
def AcceptsUnambiguous (rules : TextRules) (tokenOutcomes : Dict String String)
    (question slug description : String) : Prop :=
  (mapDirectionTokens rules tokenOutcomes question slug description).rejectReason = none →
    ∃ up down,
      (mapDirectionTokens rules tokenOutcomes question slug description).upTokenId = some up ∧
      (mapDirectionTokens rules tokenOutcomes question slug description).downTokenId = some down ∧
      up ≠ down ∧ up ∈ tokenOutcomes.keys ∧ down ∈ tokenOutcomes.keys ∧
      ∀ e ∈ tokenOutcomes.entries, ∀ direction,
        outcomeDirection rules (inferYesDirection rules question slug description) e.2 =
            some direction →
          e.1 = match direction with
            | .up => up
            | .down => down

/-- How many outcomes of a kind are listed. -/
def kindCount (rules : TextRules) (entries : List (String × String)) (kind : OutcomeKind) : ℕ :=
  entries.countP fun e => outcomeKind rules e.2 = some kind

/-- The outcomes are listed without ambiguity: one is not supported, or every direction that is
found has one outcome only. -/
def ListedOnce (rules : TextRules) (entries : List (String × String))
    (yesDirection : Option GapDirection) : Prop :=
  (∃ e ∈ entries, outcomeKind rules e.2 = none) ∨
    (kindCount rules entries (.direct .up) = 1 ∧ kindCount rules entries (.direct .down) = 1 ∧
      kindCount rules entries .yes ≤ 1 ∧ kindCount rules entries .no ≤ 1 ∧
      (yesDirection ≠ none →
        kindCount rules entries .yes = 0 ∧ kindCount rules entries .no = 0)) ∨
    (¬ (1 ≤ kindCount rules entries (.direct .up) ∧ 1 ≤ kindCount rules entries (.direct .down)) ∧
      (1 ≤ kindCount rules entries .yes → 1 ≤ kindCount rules entries .no → yesDirection ≠ none →
        kindCount rules entries .yes = 1 ∧ kindCount rules entries .no = 1 ∧
        kindCount rules entries (.direct .up) = 0 ∧
        kindCount rules entries (.direct .down) = 0))

/-! ### What the loop finds -/

section

variable {rules : TextRules} {entries : List (String × String)} {kind : OutcomeKind}

/-- The token of the last outcome of a kind. -/
def lastToken (rules : TextRules) (entries : List (String × String)) (kind : OutcomeKind) :
    Option String :=
  ((entries.filter fun e => outcomeKind rules e.2 = some kind).getLast?).map Prod.fst

/-- **Each slot has the token of the last outcome of its kind.** -/
theorem scanOutcomes_eq (h : ∀ e ∈ entries, outcomeKind rules e.2 ≠ none) (slots : OutcomeSlots) :
    ∃ found, scanOutcomes rules entries slots = .ok found ∧
      ∀ kind, found.get kind = (lastToken rules entries kind).or (slots.get kind) := by
  induction entries generalizing slots with
  | nil => exact ⟨slots, rfl, fun kind => rfl⟩
  | cons e entries ih =>
      obtain ⟨tokenId, outcome⟩ := e
      obtain ⟨first, hfirst⟩ := Option.ne_none_iff_exists'.mp (h (tokenId, outcome) (by simp))
      obtain ⟨found, hfound, hget⟩ :=
        ih (fun e he => h e (List.mem_cons_of_mem _ he)) (slots.put first tokenId)
      refine ⟨found, by simpa only [scanOutcomes, hfirst] using hfound, fun kind => ?_⟩
      rw [hget, OutcomeSlots.get_put, lastToken, lastToken, List.filter_cons]
      simp only [hfirst, Option.some.injEq, decide_eq_true_eq]
      split
      · rw [List.getLast?_cons]
        cases (entries.filter fun e => decide (outcomeKind rules e.2 = some kind)).getLast? <;> rfl
      · rfl

theorem scanOutcomes_error (h : ∃ e ∈ entries, outcomeKind rules e.2 = none)
    (slots : OutcomeSlots) : ∃ reason, scanOutcomes rules entries slots = .error reason := by
  induction entries generalizing slots with
  | nil => simp at h
  | cons e entries ih =>
      obtain ⟨tokenId, outcome⟩ := e
      cases hkind : outcomeKind rules outcome with
      | none => exact ⟨"unsupported_outcome:" ++ outcome, by simp only [scanOutcomes, hkind]⟩
      | some kind =>
          have hrest : ∃ e ∈ entries, outcomeKind rules e.2 = none := by
            simpa [hkind] using h
          simpa only [scanOutcomes, hkind] using ih hrest (slots.put kind tokenId)

/-- The slots of a list of outcomes. -/
def foundSlots (rules : TextRules) (entries : List (String × String)) : OutcomeSlots where
  up := lastToken rules entries (.direct .up)
  down := lastToken rules entries (.direct .down)
  yes := lastToken rules entries .yes
  no := lastToken rules entries .no

theorem mapDirectionTokens_of_supported {tokenOutcomes : Dict String String}
    (h : ∀ e ∈ tokenOutcomes.entries, outcomeKind rules e.2 ≠ none)
    (question slug description : String) :
    mapDirectionTokens rules tokenOutcomes question slug description =
      (foundSlots rules tokenOutcomes.entries).conclude
        (inferYesDirection rules question slug description) := by
  obtain ⟨found, hscan, hget⟩ := scanOutcomes_eq h .empty
  have hslots : found = foundSlots rules tokenOutcomes.entries := by
    have hslot (kind : OutcomeKind) : found.get kind = lastToken rules tokenOutcomes.entries kind := by
      rw [hget]
      rcases kind with (_ | _) | _ | _ <;> exact Option.or_none
    obtain ⟨up, down, yes, no⟩ := found
    have hup : up = _ := hslot (.direct .up)
    have hdown : down = _ := hslot (.direct .down)
    have hyes : yes = _ := hslot .yes
    have hno : no = _ := hslot .no
    rw [hup, hdown, hyes, hno]
    rfl
  rw [mapDirectionTokens, hscan, hslots]

theorem mapDirectionTokens_of_unsupported {tokenOutcomes : Dict String String}
    (h : ∃ e ∈ tokenOutcomes.entries, outcomeKind rules e.2 = none)
    (question slug description : String) :
    (mapDirectionTokens rules tokenOutcomes question slug description).rejectReason ≠ none := by
  obtain ⟨reason, hscan⟩ := scanOutcomes_error h .empty
  rw [mapDirectionTokens, hscan]
  simp

/-! ### Outcomes of a kind -/

theorem lastToken_isSome : (lastToken rules entries kind).isSome = true ↔
    1 ≤ kindCount rules entries kind := by
  rw [lastToken, Option.isSome_map, List.getLast?_isSome, kindCount, List.countP_eq_length_filter,
    Nat.one_le_iff_ne_zero, Ne, Ne, List.length_eq_zero_iff]

theorem mem_of_lastToken {tokenId : String} (h : lastToken rules entries kind = some tokenId) :
    ∃ outcome, (tokenId, outcome) ∈ entries ∧ outcomeKind rules outcome = some kind := by
  obtain ⟨e, he, rfl⟩ := Option.map_eq_some_iff.mp h
  have hmem := List.mem_of_getLast? he
  exact ⟨e.2, (List.mem_filter.mp hmem).1, of_decide_eq_true (List.mem_filter.mp hmem).2⟩

/-- The only outcome of a kind gives its token. -/
theorem lastToken_of_mem {e : String × String} (he : e ∈ entries)
    (hkind : outcomeKind rules e.2 = some kind) (hone : kindCount rules entries kind ≤ 1) :
    lastToken rules entries kind = some e.1 := by
  have hmem : e ∈ entries.filter fun e => outcomeKind rules e.2 = some kind :=
    List.mem_filter.mpr ⟨he, decide_eq_true hkind⟩
  rw [kindCount, List.countP_eq_length_filter] at hone
  rw [lastToken]
  rcases hfilter : entries.filter fun e => outcomeKind rules e.2 = some kind
    with _ | ⟨e', _ | ⟨second, rest⟩⟩
  · simp [hfilter] at hmem
  · rw [hfilter] at hmem ⊢
    rw [List.mem_singleton.mp hmem]
    rfl
  · simp [hfilter] at hone

/-- A kind that is listed at most once has the same token in every order. -/
theorem lastToken_perm {entries' : List (String × String)} (hperm : entries'.Perm entries)
    (hone : kindCount rules entries kind ≤ 1) :
    lastToken rules entries' kind = lastToken rules entries kind := by
  have hcount : kindCount rules entries' kind = kindCount rules entries kind := hperm.countP_eq _
  cases hlast : lastToken rules entries kind with
  | none =>
      have hnone : ¬ 1 ≤ kindCount rules entries kind :=
        fun hone => by simpa [hlast] using lastToken_isSome.mpr hone
      cases hlast' : lastToken rules entries' kind with
      | none => rfl
      | some tokenId =>
          have hsome := lastToken_isSome.mp (by simp [hlast'] :
            (lastToken rules entries' kind).isSome = true)
          rw [hcount] at hsome
          exact absurd hsome hnone
  | some tokenId =>
      obtain ⟨outcome, hmem, hkind⟩ := mem_of_lastToken hlast
      exact lastToken_of_mem (hperm.mem_iff.mpr hmem) hkind (hcount ▸ hone)

/-- Listed backwards, a kind that is listed twice has another token. -/
theorem kindCount_le_of_reverse (hnodup : (entries.map Prod.fst).Nodup)
    (h : lastToken rules entries.reverse kind = lastToken rules entries kind) :
    kindCount rules entries kind ≤ 1 := by
  rw [lastToken, lastToken, List.filter_reverse, List.getLast?_reverse] at h
  rw [kindCount, List.countP_eq_length_filter]
  have hkeys : ((entries.filter fun e => outcomeKind rules e.2 = some kind).map Prod.fst).Nodup :=
    hnodup.sublist (List.filter_sublist.map _)
  rcases hfilter : entries.filter fun e => outcomeKind rules e.2 = some kind
    with _ | ⟨first, _ | ⟨second, rest⟩⟩
  · simp [hfilter]
  · simp [hfilter]
  · rw [hfilter] at h hkeys
    rw [List.head?_cons, List.getLast?_cons_cons] at h
    obtain ⟨last, hlast⟩ : ∃ last, (second :: rest).getLast? = some last :=
      ⟨_, List.getLast?_eq_some_getLast (by simp)⟩
    rw [hlast, Option.map_some, Option.map_some, Option.some.injEq] at h
    refine absurd ?_ (List.nodup_cons.mp hkeys).1
    rw [h]
    exact List.mem_map_of_mem (List.mem_of_getLast? hlast)

/-! ### When the mapping is accepted -/

/-- Both directions are listed by name. -/
def DirectListed (rules : TextRules) (entries : List (String × String)) : Prop :=
  1 ≤ kindCount rules entries (.direct .up) ∧ 1 ≤ kindCount rules entries (.direct .down)

/-- `Yes` and `No` are listed, and the question says for what. -/
def AskedListed (rules : TextRules) (entries : List (String × String))
    (yesDirection : Option GapDirection) : Prop :=
  1 ≤ kindCount rules entries .yes ∧ 1 ≤ kindCount rules entries .no ∧ yesDirection ≠ none

/-- The token that `Yes` or `No` gives a direction. -/
def askedToken (rules : TextRules) (entries : List (String × String))
    (yesDirection direction : GapDirection) : Option String :=
  lastToken rules entries (if yesDirection = direction then .yes else .no)

variable {yesDirection : Option GapDirection}

theorem conclude_of_direct (h : DirectListed rules entries) :
    (foundSlots rules entries).conclude yesDirection =
      ⟨lastToken rules entries (.direct .up), lastToken rules entries (.direct .down),
        lastToken rules entries .yes, lastToken rules entries .no, none⟩ := by
  have hup := lastToken_isSome.mpr h.1
  have hdown := lastToken_isSome.mpr h.2
  simp [OutcomeSlots.conclude, foundSlots, hup, hdown]

theorem conclude_of_asked {direction : GapDirection} (hdirect : ¬ DirectListed rules entries)
    (h : AskedListed rules entries (some direction)) :
    (foundSlots rules entries).conclude (some direction) =
      ⟨askedToken rules entries direction .up, askedToken rules entries direction .down,
        lastToken rules entries .yes, lastToken rules entries .no, none⟩ := by
  have hyes := lastToken_isSome.mpr h.1
  have hno := lastToken_isSome.mpr h.2.1
  rw [DirectListed, ← lastToken_isSome, ← lastToken_isSome] at hdirect
  cases direction <;>
    simp [OutcomeSlots.conclude, foundSlots, hyes, hno, hdirect, askedToken]

theorem conclude_rejected (hdirect : ¬ DirectListed rules entries)
    (h : ¬ AskedListed rules entries yesDirection) :
    ((foundSlots rules entries).conclude yesDirection).rejectReason ≠ none := by
  rw [DirectListed, ← lastToken_isSome, ← lastToken_isSome] at hdirect
  rw [AskedListed, ← lastToken_isSome, ← lastToken_isSome] at h
  cases yesDirection with
  | none =>
      simp only [OutcomeSlots.conclude, foundSlots, Bool.and_eq_true, if_neg hdirect]
      split <;> simp
  | some direction =>
      have hasked : ¬ ((lastToken rules entries .yes).isSome = true ∧
          (lastToken rules entries .no).isSome = true) :=
        fun hboth => h ⟨hboth.1, hboth.2, by simp⟩
      simp [OutcomeSlots.conclude, foundSlots, hdirect, hasked]

/-- Which outcomes are listed does not depend on the order. -/
theorem kindCount_perm {entries' : List (String × String)} (hperm : entries'.Perm entries)
    (kind : OutcomeKind) : kindCount rules entries' kind = kindCount rules entries kind :=
  hperm.countP_eq _

theorem directListed_perm {entries' : List (String × String)} (hperm : entries'.Perm entries) :
    DirectListed rules entries' ↔ DirectListed rules entries := by
  rw [DirectListed, DirectListed, kindCount_perm hperm, kindCount_perm hperm]

theorem askedListed_perm {entries' : List (String × String)} (hperm : entries'.Perm entries) :
    AskedListed rules entries' yesDirection ↔ AskedListed rules entries yesDirection := by
  rw [AskedListed, AskedListed, kindCount_perm hperm, kindCount_perm hperm]

/-- Outcomes of which each kind is listed at most once have the same slots in every order. -/
theorem foundSlots_perm {entries' : List (String × String)} (hperm : entries'.Perm entries)
    (hone : ∀ kind, kindCount rules entries kind ≤ 1) :
    foundSlots rules entries' = foundSlots rules entries := by
  simp only [foundSlots, lastToken_perm hperm (hone _)]

/-- Tokens of outcomes of different kinds differ. -/
theorem token_ne_of_kind_ne (hnodup : (entries.map Prod.fst).Nodup) {e e' : String × String}
    (he : e ∈ entries) (he' : e' ∈ entries)
    (hne : outcomeKind rules e.2 ≠ outcomeKind rules e'.2) : e.1 ≠ e'.1 := by
  intro heq
  obtain rfl := List.inj_on_of_nodup_map hnodup he he' heq
  exact hne rfl

/-- The outcomes listed backwards. -/
def reversed (tokenOutcomes : Dict String String) : Dict String String where
  entries := tokenOutcomes.entries.reverse
  nodup := by
    rw [List.map_reverse]
    exact List.nodup_reverse.mpr tokenOutcomes.nodup

variable {tokenOutcomes : Dict String String} {question slug description : String}

/-- An outcome that is not supported rejects the market in every order. -/
theorem unambiguous_of_unsupported
    (h : ∃ e ∈ tokenOutcomes.entries, outcomeKind rules e.2 = none) :
    OrderIndependent rules tokenOutcomes question slug description ∧
      AcceptsUnambiguous rules tokenOutcomes question slug description := by
  have hreject := mapDirectionTokens_of_unsupported h question slug description
  refine ⟨fun listed hperm => .inr ⟨hreject, ?_⟩, fun haccept => absurd haccept hreject⟩
  obtain ⟨e, he, hkind⟩ := h
  exact mapDirectionTokens_of_unsupported ⟨e, hperm.mem_iff.mpr he, hkind⟩ question slug description

/-- Supported outcomes in another order. -/
theorem map_listed (hsupported : ∀ e ∈ tokenOutcomes.entries, outcomeKind rules e.2 ≠ none)
    {listed : Dict String String} (hperm : listed.entries.Perm tokenOutcomes.entries)
    (question slug description : String) :
    mapDirectionTokens rules listed question slug description =
      (foundSlots rules listed.entries).conclude
        (inferYesDirection rules question slug description) :=
  mapDirectionTokens_of_supported (fun e he => hsupported e (hperm.mem_iff.mp he)) _ _ _

/-- Neither direct outcomes nor `Yes` and `No` with an answer: rejected in every order. -/
theorem unambiguous_of_rejected
    (hsupported : ∀ e ∈ tokenOutcomes.entries, outcomeKind rules e.2 ≠ none)
    (hdirect : ¬ DirectListed rules tokenOutcomes.entries)
    (hasked : ¬ AskedListed rules tokenOutcomes.entries
      (inferYesDirection rules question slug description)) :
    OrderIndependent rules tokenOutcomes question slug description ∧
      AcceptsUnambiguous rules tokenOutcomes question slug description := by
  have hreject {listed : Dict String String}
      (hperm : listed.entries.Perm tokenOutcomes.entries) :
      (mapDirectionTokens rules listed question slug description).rejectReason ≠ none := by
    rw [map_listed hsupported hperm question slug description]
    refine conclude_rejected ?_ ?_
    · rwa [directListed_perm hperm]
    · rwa [askedListed_perm hperm]
  exact ⟨fun listed hperm => .inr ⟨hreject (.refl _), hreject hperm⟩,
    fun haccept => absurd haccept (hreject (.refl _))⟩

/-- The order of the outcomes does not matter when no kind is listed twice. -/
theorem orderIndependent_of_once
    (hsupported : ∀ e ∈ tokenOutcomes.entries, outcomeKind rules e.2 ≠ none)
    (haccept : (mapDirectionTokens rules tokenOutcomes question slug description).rejectReason =
      none)
    (hone : ∀ kind, kindCount rules tokenOutcomes.entries kind ≤ 1) :
    OrderIndependent rules tokenOutcomes question slug description := by
  intro listed hperm
  refine .inl ⟨haccept, ?_⟩
  rw [map_listed hsupported hperm question slug description,
    map_listed hsupported (.refl _) question slug description, foundSlots_perm hperm hone]

/-- An accepted mapping is that of the outcomes listed backwards. -/
theorem conclude_reversed
    (hsupported : ∀ e ∈ tokenOutcomes.entries, outcomeKind rules e.2 ≠ none)
    (h : OrderIndependent rules tokenOutcomes question slug description)
    (haccept : (mapDirectionTokens rules tokenOutcomes question slug description).rejectReason =
      none) :
    (foundSlots rules tokenOutcomes.entries).conclude
        (inferYesDirection rules question slug description) =
      (foundSlots rules tokenOutcomes.entries.reverse).conclude
        (inferYesDirection rules question slug description) := by
  have hperm : (reversed tokenOutcomes).entries.Perm tokenOutcomes.entries := List.reverse_perm _
  rcases h (reversed tokenOutcomes) hperm with ⟨-, hsame⟩ | ⟨hreject, -⟩
  · rw [map_listed hsupported (.refl _) question slug description,
      map_listed hsupported hperm question slug description] at hsame
    exact hsame
  · exact absurd haccept hreject

/-- What the direction of an outcome says about its kind. -/
theorem kind_of_direction {outcome : String} {direction : GapDirection}
    (h : outcomeDirection rules yesDirection outcome = some direction) :
    outcomeKind rules outcome = some (.direct direction) ∨
      ∃ yes, yesDirection = some yes ∧
        outcomeKind rules outcome = some (if yes = direction then .yes else .no) := by
  rw [outcomeDirection] at h
  split at h
  · rename_i hkind
    exact .inl (Option.some.inj h ▸ hkind)
  · rename_i hkind
    exact .inr ⟨direction, h, by rw [if_pos rfl]; exact hkind⟩
  · rename_i hkind
    obtain ⟨yes, hyes, hopposite⟩ := Option.map_eq_some_iff.mp h
    refine .inr ⟨yes, hyes, ?_⟩
    rw [if_neg, hkind]
    rintro rfl
    cases yes <;> cases hopposite
  · cases h

/-- `Yes` and `No` stand for a direction once the question says one. -/
theorem exists_direction (hasked : yesDirection ≠ none) (hkind : kind = .yes ∨ kind = .no)
    {outcome : String} (h : outcomeKind rules outcome = some kind) :
    ∃ direction, outcomeDirection rules yesDirection outcome = some direction := by
  obtain ⟨yes, rfl⟩ := Option.ne_none_iff_exists'.mp hasked
  rcases hkind with rfl | rfl
  · exact ⟨yes, by rw [outcomeDirection, h]⟩
  · rw [outcomeDirection, h]
    exact ⟨_, rfl⟩

/-- Where each direction has one token, no outcome of a further kind may say a direction. -/
theorem kindCount_eq_zero_of_directed (hnodup : (entries.map Prod.fst).Nodup)
    {up down upOutcome downOutcome : String} (hup : (up, upOutcome) ∈ entries)
    (hdown : (down, downOutcome) ∈ entries)
    (hall : ∀ e ∈ entries, ∀ direction,
      outcomeDirection rules yesDirection e.2 = some direction →
        e.1 = match direction with
          | .up => up
          | .down => down)
    (hdirected : ∀ outcome, outcomeKind rules outcome = some kind →
      ∃ direction, outcomeDirection rules yesDirection outcome = some direction)
    (hneUp : outcomeKind rules upOutcome ≠ some kind)
    (hneDown : outcomeKind rules downOutcome ≠ some kind) : kindCount rules entries kind = 0 := by
  by_contra hne
  obtain ⟨token, hlast⟩ := Option.isSome_iff_exists.mp
    (lastToken_isSome.mpr (Nat.one_le_iff_ne_zero.mpr hne))
  obtain ⟨outcome, hmem, houtcome⟩ := mem_of_lastToken hlast
  obtain ⟨direction, hdirection⟩ := hdirected outcome houtcome
  have htokenEq := hall _ hmem direction hdirection
  cases direction with
  | up =>
      have hne : outcomeKind rules outcome ≠ outcomeKind rules upOutcome := by
        rw [houtcome]
        exact hneUp.symm
      exact token_ne_of_kind_ne hnodup hmem hup hne htokenEq
  | down =>
      have hne : outcomeKind rules outcome ≠ outcomeKind rules downOutcome := by
        rw [houtcome]
        exact hneDown.symm
      exact token_ne_of_kind_ne hnodup hmem hdown hne htokenEq

/-- Direct outcomes: they must be listed once each, and nothing else may say a direction. -/
theorem unambiguous_direct_iff
    (hsupported : ∀ e ∈ tokenOutcomes.entries, outcomeKind rules e.2 ≠ none)
    (hdirect : DirectListed rules tokenOutcomes.entries) :
    (OrderIndependent rules tokenOutcomes question slug description ∧
        AcceptsUnambiguous rules tokenOutcomes question slug description) ↔
      (kindCount rules tokenOutcomes.entries (.direct .up) = 1 ∧
        kindCount rules tokenOutcomes.entries (.direct .down) = 1 ∧
        kindCount rules tokenOutcomes.entries .yes ≤ 1 ∧
        kindCount rules tokenOutcomes.entries .no ≤ 1 ∧
        (inferYesDirection rules question slug description ≠ none →
          kindCount rules tokenOutcomes.entries .yes = 0 ∧
          kindCount rules tokenOutcomes.entries .no = 0)) := by
  have hmap := map_listed hsupported (.refl _) question slug description
  rw [conclude_of_direct hdirect] at hmap
  obtain ⟨up, hup⟩ := Option.isSome_iff_exists.mp (lastToken_isSome.mpr hdirect.1)
  obtain ⟨down, hdown⟩ := Option.isSome_iff_exists.mp (lastToken_isSome.mpr hdirect.2)
  obtain ⟨upOutcome, hupMem, hupKind⟩ := mem_of_lastToken hup
  obtain ⟨downOutcome, hdownMem, hdownKind⟩ := mem_of_lastToken hdown
  constructor
  · rintro ⟨horder, haccept⟩
    have hreversed := conclude_reversed hsupported horder (by rw [hmap])
    have hdirect' := (directListed_perm (List.reverse_perm tokenOutcomes.entries)).mpr hdirect
    rw [conclude_of_direct hdirect, conclude_of_direct hdirect', DirectionMapping.mk.injEq]
      at hreversed
    obtain ⟨hupSame, hdownSame, hyesSame, hnoSame, -⟩ := hreversed
    have hnodup := tokenOutcomes.nodup
    have honeUp := kindCount_le_of_reverse hnodup hupSame.symm
    have honeDown := kindCount_le_of_reverse hnodup hdownSame.symm
    refine ⟨le_antisymm honeUp hdirect.1, le_antisymm honeDown hdirect.2,
      kindCount_le_of_reverse hnodup hyesSame.symm, kindCount_le_of_reverse hnodup hnoSame.symm,
      fun hasked => ?_⟩
    obtain ⟨up', down', hup', hdown', -, -, -, hall⟩ := haccept (by rw [hmap])
    rw [hmap] at hup' hdown'
    obtain rfl := Option.some.inj (hup.symm.trans hup')
    obtain rfl := Option.some.inj (hdown.symm.trans hdown')
    -- a token with a direction is one of the two that were found
    have hzero {kind : OutcomeKind} (hkind : kind = .yes ∨ kind = .no) :
        kindCount rules tokenOutcomes.entries kind = 0 := by
      refine kindCount_eq_zero_of_directed hnodup hupMem hdownMem hall
        (fun outcome => exists_direction hasked hkind) ?_ ?_
      · rcases hkind with rfl | rfl <;> simp [hupKind]
      · rcases hkind with rfl | rfl <;> simp [hdownKind]
    exact ⟨hzero (.inl rfl), hzero (.inr rfl)⟩
  · rintro ⟨honeUp, honeDown, honeYes, honeNo, hnone⟩
    have hone (kind : OutcomeKind) : kindCount rules tokenOutcomes.entries kind ≤ 1 := by
      rcases kind with (_ | _) | _ | _
      · exact honeUp.le
      · exact honeDown.le
      · exact honeYes
      · exact honeNo
    refine ⟨orderIndependent_of_once hsupported (by rw [hmap]) hone, fun _ => ?_⟩
    refine ⟨up, down, by rw [hmap, hup], by rw [hmap, hdown], ?_, List.mem_map_of_mem hupMem,
      List.mem_map_of_mem hdownMem, fun e he direction hdirection => ?_⟩
    · have hne : outcomeKind rules upOutcome ≠ outcomeKind rules downOutcome := by
        simp [hupKind, hdownKind]
      exact token_ne_of_kind_ne tokenOutcomes.nodup hupMem hdownMem hne
    · rcases kind_of_direction hdirection with hkind | ⟨yes, hyes, hkind⟩
      · have hlast := lastToken_of_mem he hkind (hone _)
        cases direction with
        | up => exact Option.some.inj (hlast.symm.trans hup)
        | down => exact Option.some.inj (hlast.symm.trans hdown)
      · obtain ⟨hyesZero, hnoZero⟩ := hnone (by simp [hyes])
        have hlast := lastToken_isSome.mp
          (Option.isSome_iff_exists.mpr ⟨_, lastToken_of_mem he hkind (hone _)⟩)
        split at hlast <;> omega

/-- `Yes` and `No` with an answer: they must be listed once each, without direct outcomes. -/
theorem unambiguous_asked_iff
    (hsupported : ∀ e ∈ tokenOutcomes.entries, outcomeKind rules e.2 ≠ none)
    (hdirect : ¬ DirectListed rules tokenOutcomes.entries)
    (hasked : AskedListed rules tokenOutcomes.entries
      (inferYesDirection rules question slug description)) :
    (OrderIndependent rules tokenOutcomes question slug description ∧
        AcceptsUnambiguous rules tokenOutcomes question slug description) ↔
      (kindCount rules tokenOutcomes.entries .yes = 1 ∧
        kindCount rules tokenOutcomes.entries .no = 1 ∧
        kindCount rules tokenOutcomes.entries (.direct .up) = 0 ∧
        kindCount rules tokenOutcomes.entries (.direct .down) = 0) := by
  have hmap := map_listed hsupported (.refl _) question slug description
  obtain ⟨answer, hanswer⟩ := Option.ne_none_iff_exists'.mp hasked.2.2
  rw [hanswer] at hasked hmap
  rw [conclude_of_asked hdirect hasked] at hmap
  -- each direction has the token of `Yes` or of `No`
  have htoken (direction : GapDirection) : ∃ token outcome,
      askedToken rules tokenOutcomes.entries answer direction = some token ∧
      (token, outcome) ∈ tokenOutcomes.entries ∧
      outcomeKind rules outcome = some (if answer = direction then .yes else .no) := by
    have hlisted : 1 ≤ kindCount rules tokenOutcomes.entries
        (if answer = direction then .yes else .no) := by
      split
      · exact hasked.1
      · exact hasked.2.1
    obtain ⟨token, hlast⟩ := Option.isSome_iff_exists.mp (lastToken_isSome.mpr hlisted)
    obtain ⟨outcome, hmem, hkind⟩ := mem_of_lastToken hlast
    exact ⟨token, outcome, hlast, hmem, hkind⟩
  obtain ⟨up, upOutcome, hup, hupMem, hupKind⟩ := htoken .up
  obtain ⟨down, downOutcome, hdown, hdownMem, hdownKind⟩ := htoken .down
  have hnodup := tokenOutcomes.nodup
  constructor
  · rintro ⟨horder, haccept⟩
    have hreverse := List.reverse_perm tokenOutcomes.entries
    have hreversed := conclude_reversed hsupported horder (by rw [hmap])
    rw [hanswer, conclude_of_asked hdirect hasked,
      conclude_of_asked (mt (directListed_perm hreverse).mp hdirect)
        ((askedListed_perm hreverse).mpr hasked), DirectionMapping.mk.injEq] at hreversed
    obtain ⟨-, -, hyesSame, hnoSame, -⟩ := hreversed
    obtain ⟨up', down', hup', hdown', -, -, -, hall⟩ := haccept (by rw [hmap])
    rw [hmap] at hup' hdown'
    obtain rfl := Option.some.inj (hup.symm.trans hup')
    obtain rfl := Option.some.inj (hdown.symm.trans hdown')
    -- an outcome that names a direction has another token than `Yes` and `No`
    have hzero (direction : GapDirection) :
        kindCount rules tokenOutcomes.entries (.direct direction) = 0 := by
      refine kindCount_eq_zero_of_directed hnodup hupMem hdownMem hall
        (fun outcome houtcome => ⟨direction, by rw [outcomeDirection, houtcome]⟩) ?_ ?_
      · rw [hupKind]
        split <;> simp
      · rw [hdownKind]
        split <;> simp
    exact ⟨le_antisymm (kindCount_le_of_reverse hnodup hyesSame.symm) hasked.1,
      le_antisymm (kindCount_le_of_reverse hnodup hnoSame.symm) hasked.2.1, hzero .up, hzero .down⟩
  · rintro ⟨honeYes, honeNo, hzeroUp, hzeroDown⟩
    have hone (kind : OutcomeKind) : kindCount rules tokenOutcomes.entries kind ≤ 1 := by
      rcases kind with (_ | _) | _ | _ <;> omega
    refine ⟨orderIndependent_of_once hsupported (by rw [hmap]) hone, fun _ => ?_⟩
    refine ⟨up, down, by rw [hmap, hup], by rw [hmap, hdown], ?_, List.mem_map_of_mem hupMem,
      List.mem_map_of_mem hdownMem, fun e he direction hdirection => ?_⟩
    · have hne : outcomeKind rules upOutcome ≠ outcomeKind rules downOutcome := by
        rw [hupKind, hdownKind]
        cases answer <;> simp
      exact token_ne_of_kind_ne hnodup hupMem hdownMem hne
    · rw [hanswer] at hdirection
      rcases kind_of_direction hdirection with hkind | ⟨yes, hyes, hkind⟩
      · have hlast := lastToken_isSome.mp
          (Option.isSome_iff_exists.mpr ⟨_, lastToken_of_mem he hkind (hone _)⟩)
        cases direction <;> omega
      · obtain rfl := Option.some.inj hyes
        have hlast := lastToken_of_mem he hkind (hone _)
        cases direction with
        | up => exact Option.some.inj (hlast.symm.trans hup)
        | down => exact Option.some.inj (hlast.symm.trans hdown)

/-- **The mapping is unambiguous exactly when the outcomes are listed without ambiguity.** -/
theorem direction_mapping_iff (rules : TextRules) (tokenOutcomes : Dict String String)
    (question slug description : String) :
    (OrderIndependent rules tokenOutcomes question slug description ∧
        AcceptsUnambiguous rules tokenOutcomes question slug description) ↔
      ListedOnce rules tokenOutcomes.entries
        (inferYesDirection rules question slug description) := by
  rw [ListedOnce]
  by_cases hunsupported : ∃ e ∈ tokenOutcomes.entries, outcomeKind rules e.2 = none
  · exact iff_of_true (unambiguous_of_unsupported hunsupported) (.inl hunsupported)
  have hsupported : ∀ e ∈ tokenOutcomes.entries, outcomeKind rules e.2 ≠ none :=
    fun e he hkind => hunsupported ⟨e, he, hkind⟩
  rw [or_iff_right hunsupported]
  by_cases hdirect : DirectListed rules tokenOutcomes.entries
  · rw [unambiguous_direct_iff hsupported hdirect]
    exact (or_iff_left fun h => h.1 hdirect).symm
  have hnotOnce : ∀ rest, ¬ (kindCount rules tokenOutcomes.entries (.direct .up) = 1 ∧
      kindCount rules tokenOutcomes.entries (.direct .down) = 1 ∧ rest) :=
    fun rest h => hdirect ⟨h.1.ge, h.2.1.ge⟩
  rw [or_iff_right (hnotOnce _), and_iff_right (show ¬ (_ ∧ _) from hdirect)]
  by_cases hasked : AskedListed rules tokenOutcomes.entries
      (inferYesDirection rules question slug description)
  · rw [unambiguous_asked_iff hsupported hdirect hasked]
    exact ⟨fun h _ _ _ => h, fun h => h hasked.1 hasked.2.1 hasked.2.2⟩
  · exact iff_of_true (unambiguous_of_rejected hsupported hdirect hasked)
      fun hyes hno hanswer => absurd ⟨hyes, hno, hanswer⟩ hasked

/-- Two outcomes that say up: the last one listed gets the direction. -/
theorem twice_up_depends_on_order :
    ¬ (OrderIndependent asciiRules (.ofList [("1", "Up"), ("2", "Down"), ("3", "Up")]) "" "" "" ∧
      AcceptsUnambiguous asciiRules (.ofList [("1", "Up"), ("2", "Down"), ("3", "Up")])
        "" "" "") := by
  rintro ⟨horder, -⟩
  rcases horder (.ofList [("3", "Up"), ("2", "Down"), ("1", "Up")]) (by decide +kernel) with
    ⟨-, hsame⟩ | ⟨hreject, -⟩
  · exact absurd hsame (by decide +kernel)
  · exact absurd hreject (by decide +kernel)

end

end SomethingTrade
