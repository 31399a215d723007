import HatTree.Log.Record
import HatTree.Proofs.Log.SafeText

/-!
# Extra fields and the front of an entry

Every entry starts with four fields of its own: the time, the level, the logger and the message.
The extra fields are put over the fields of the entry by name. The names that are kept from them are
those of the attributes of a record and of the context, which are not the names of the fields at the
front: of these four, the message alone is among them. So an extra field takes the place of the
time, the level or the logger when it has that name, in an object and also in a line, where no extra
field is shown otherwise. The other extra fields leave the front as it is. An entry has no fields at
all when one of the extra fields that are written has no preview.

## Main definitions

* `Log.Record.bare`: a record without its extra fields
* `Log.Record.frontNames`: the names of the fields that an entry starts with
* `Log.Record.Shows`: a text that has the given fields at its front

## Main results

* `Log.lookup_putEntries`: the value that was put last under a name is found
* `Log.Record.exists_previewsOf_iff`: when some fields have previews
* `Log.Record.lookup_previews`: what the extra fields put under a name
* `Log.Record.exists_plainLine_iff`: when a line is written
* `Log.Record.extras_over_front`: how the extra fields change the front of an entry
-/

namespace HatTree

/-! ## Entries put over others -/

namespace Log

open Value

theorem sameKey_text {name : String} {k : Value} :
    sameKey (.text name) k = true ↔ k = .text name := by
  cases k with
  | text n =>
    rw [sameKey, beq_iff_eq, text.injEq]
    exact eq_comm
  | _ => simp [sameKey, keyInteger?]

theorem sameKey_self (name : String) : sameKey (.text name) (.text name) = true :=
  sameKey_text.mpr rfl

theorem eq_text_of_sameKey {name : String} {k : Value} (h : sameKey k (.text name) = true) :
    k = .text name := by
  cases k with
  | text n =>
    rw [sameKey, beq_iff_eq] at h
    rw [h]
  | _ => simp [sameKey, keyInteger?] at h

section Found

variable {name : String} {es : List (Value × Value)}

theorem lookup_cons (name : String) (e : Value × Value) (es : List (Value × Value)) :
    lookup name (e :: es) = if sameKey (.text name) e.1 then some e.2 else lookup name es := by
  obtain ⟨k, v⟩ := e
  cases k with
  | text n =>
    rw [lookup]
    exact if_congr (by rw [sameKey_text, text.injEq]) rfl rfl
  | _ => rfl

theorem lookup_append (name : String) (es es' : List (Value × Value)) :
    lookup name (es ++ es') = (lookup name es).or (lookup name es') := by
  induction es with
  | nil => rfl
  | cons e es ih =>
    rw [List.cons_append, lookup_cons, lookup_cons, ih]
    split <;> rfl

theorem exists_lookup (h : .text name ∈ es.map Prod.fst) : ∃ v, lookup name es = some v := by
  induction es with
  | nil => cases h
  | cons e es ih =>
    rw [lookup_cons]
    split
    next => exact ⟨_, rfl⟩
    next hne =>
      refine ih ((List.mem_cons.mp h).resolve_left fun he => hne ?_)
      exact sameKey_text.mpr he.symm

theorem lookup_putEntry (name : String) (k v : Value) (es : List (Value × Value)) :
    lookup name (putEntry k v es) = if sameKey (.text name) k then some v else lookup name es := by
  induction es with
  | nil => rw [putEntry, lookup_cons]
  | cons e es ih =>
    obtain ⟨k', v'⟩ := e
    rw [putEntry]
    split
    next h =>
      -- The key that is kept is the one that was put, whatever is looked up.
      rw [lookup_cons, lookup_cons]
      by_cases hk : k = .text name
      · subst hk
        rw [if_pos h, if_pos (sameKey_self name)]
      · have hk' : k' ≠ .text name := by
          rintro rfl
          exact hk (eq_text_of_sameKey h)
        rw [if_neg (mt sameKey_text.mp hk'), if_neg (mt sameKey_text.mp hk'),
          if_neg (mt sameKey_text.mp hk)]
    next h =>
      rw [lookup_cons, lookup_cons, ih]
      by_cases hk : k = .text name
      · subst hk
        rw [if_neg h, if_pos (sameKey_self name), if_pos (sameKey_self name)]
      · rw [if_neg (mt sameKey_text.mp hk), if_neg (mt sameKey_text.mp hk)]

end Found

section Added

variable (es added : List (Value × Value))

/-- **What was put last is found.** -/
theorem lookup_putEntries (name : String) :
    lookup name (putEntries es added) = (lookup name added.reverse).or (lookup name es) := by
  induction added generalizing es with
  | nil => rfl
  | cons e added ih =>
    obtain ⟨k, v⟩ := e
    rw [List.reverse_cons, lookup_append, lookup_cons, Option.or_assoc]
    refine (ih (putEntry k v es)).trans ?_
    rw [lookup_putEntry]
    congr 1
    split <;> rfl

theorem keys_prefix_putEntry (k v : Value) :
    es.map Prod.fst <+: (putEntry k v es).map Prod.fst := by
  induction es with
  | nil => exact List.nil_prefix
  | cons e es ih =>
    obtain ⟨k', v'⟩ := e
    rw [putEntry]
    split
    · exact List.prefix_rfl
    · exact List.cons_prefix_cons.mpr ⟨rfl, ih⟩

theorem keys_prefix_putEntries : es.map Prod.fst <+: (putEntries es added).map Prod.fst := by
  induction added generalizing es with
  | nil => exact List.prefix_rfl
  | cons e added ih => exact (keys_prefix_putEntry es e.1 e.2).trans (ih _)

end Added

/-! ## Members of a dictionary -/

section Members

variable {es : List (Value × Value)} {ss : List String}

/-- An entry whose key and value have JSON texts. -/
def HasJson (e : Value × Value) : Prop := (∃ t, jsonKey e.1 = .ok t) ∧ ∃ t, json e.2 = .ok t

theorem json_dict_eq_ok {s : String} :
    json (.dict es) = .ok s ↔
      ∃ ss, jsonEntries es = .ok ss ∧ s = "\x7b" ++ ", ".intercalate ss ++ "\x7d" := by
  rw [json]
  cases jsonEntries es with
  | error flaw => simp [Except.map]
  | ok ss => simp [Except.map, eq_comm]

/-- The members of a dictionary whose first keys are texts start with the members under them. -/
theorem jsonEntries_of_prefix {names : List String} (hnames : names.Nodup)
    (hkeys : names.map text <+: es.map Prod.fst) (hss : jsonEntries es = .ok ss) :
    ∃ (texts : String → String) (others : List String),
      (∀ name ∈ names, (lookup name es).map json = some (.ok (texts name))) ∧
      ss = names.map (fun name => jsonString name ++ ": " ++ texts name) ++ others := by
  induction names generalizing es ss with
  | nil => exact ⟨fun _ => "", ss, by simp, rfl⟩
  | cons name names ih =>
    cases es with
    | nil => simp at hkeys
    | cons e es =>
      obtain ⟨k, v⟩ := e
      rw [List.map_cons, List.map_cons, List.cons_prefix_cons] at hkeys
      obtain ⟨rfl, hkeys⟩ := hkeys
      rw [jsonEntries] at hss
      obtain ⟨key, hkey, hss⟩ := bind_eq_ok.mp hss
      obtain ⟨t, ht, hss⟩ := bind_eq_ok.mp hss
      obtain ⟨ts, hts, hss⟩ := bind_eq_ok.mp hss
      cases hkey
      cases hss
      obtain ⟨hname, hnames⟩ := List.nodup_cons.mp hnames
      obtain ⟨texts, others, htexts, rfl⟩ := ih hnames hkeys hts
      obtain ⟨texts', hself, hothers⟩ : ∃ texts' : String → String,
          texts' name = t ∧ ∀ other ∈ names, texts' other = texts other :=
        ⟨Function.update texts name t, Function.update_self name t texts,
          fun other h => Function.update_of_ne (ne_of_mem_of_not_mem h hname) t texts⟩
      refine ⟨texts', others, ?_, ?_⟩
      · intro other h
        rw [lookup_cons]
        rcases List.mem_cons.mp h with rfl | h
        · rw [if_pos (sameKey_self other), hself, ← ht]
          rfl
        · have hne : text name ≠ text other := by
            rw [ne_eq, text.injEq]
            exact (ne_of_mem_of_not_mem h hname).symm
          rw [if_neg (mt sameKey_text.mp hne), hothers other h]
          exact htexts other h
      · rw [List.map_cons, List.cons_append, hself]
        congr 2
        exact List.map_congr_left fun other h => by rw [hothers other h]

theorem exists_jsonEntries (h : ∀ e ∈ es, HasJson e) : ∃ ss, jsonEntries es = .ok ss := by
  induction es with
  | nil => exact ⟨[], rfl⟩
  | cons e es ih =>
    obtain ⟨⟨key, hkey⟩, t, ht⟩ := h e List.mem_cons_self
    obtain ⟨ts, hts⟩ := ih fun e' he' => h e' (List.mem_cons_of_mem _ he')
    refine ⟨(jsonString key ++ ": " ++ t) :: ts, ?_⟩
    rw [jsonEntries, hkey, ht, hts]
    rfl

theorem hasJson_of_jsonEntries (h : jsonEntries es = .ok ss) : ∀ e ∈ es, HasJson e := by
  induction es generalizing ss with
  | nil => exact List.forall_mem_nil _
  | cons e es ih =>
    rw [jsonEntries] at h
    obtain ⟨key, hkey, h⟩ := bind_eq_ok.mp h
    obtain ⟨t, ht, h⟩ := bind_eq_ok.mp h
    obtain ⟨ts, hts, -⟩ := bind_eq_ok.mp h
    exact List.forall_mem_cons.mpr ⟨⟨⟨key, hkey⟩, t, ht⟩, ih hts⟩

variable {added : List (Value × Value)}

theorem hasJson_putEntry {k v : Value} (hes : ∀ e ∈ es, HasJson e) (he : HasJson (k, v)) :
    ∀ e ∈ putEntry k v es, HasJson e := by
  induction es with
  | nil =>
    rw [putEntry, List.forall_mem_singleton]
    exact he
  | cons e es ih =>
    obtain ⟨k', v'⟩ := e
    rw [List.forall_mem_cons] at hes
    rw [putEntry]
    split
    · exact List.forall_mem_cons.mpr ⟨⟨hes.1.1, he.2⟩, hes.2⟩
    · exact List.forall_mem_cons.mpr ⟨hes.1, ih hes.2⟩

theorem hasJson_putEntries (hes : ∀ e ∈ es, HasJson e) (hadded : ∀ e ∈ added, HasJson e) :
    ∀ e ∈ putEntries es added, HasJson e := by
  induction added generalizing es with
  | nil => exact hes
  | cons e added ih =>
    rw [List.forall_mem_cons] at hadded
    exact ih (hasJson_putEntry hes hadded.1) hadded.2

end Members

/-! ## The fields at the front -/

/-- How a value is spelled in an entry. -/
def Style.spell (style : Style) (v : Value) : Except JsonFlaw String :=
  if style.json then v.json else v.toPlain.mapError .overlong

namespace Record

/-- A record without its extra fields. -/
def bare (r : Record) : Record := { r with extras := [] }

/-- The names of the fields that an entry starts with. -/
def frontNames : List String := ["timestamp", "level", "logger", "message"]

/-- **The layout of an entry** by the texts of the fields at its front. -/
inductive IsLaidOut (texts : String → String) : Bool → String → Prop where
  /-- An object has these fields in order, and others after them. -/
  | object (others : List String) :
    IsLaidOut texts true ("\x7b" ++ ", ".intercalate
      (frontNames.map (fun name => jsonString name ++ ": " ++ texts name) ++ others) ++ "\x7d")
  /-- A line has the context in front of the message. -/
  | line (context : List String) :
    IsLaidOut texts false (" ".intercalate
      (["[" ++ texts "timestamp" ++ "]", texts "level", texts "logger"] ++ context ++
        [": " ++ texts "message"]))

/-- **A text that has the given fields at its front.** -/
def Shows (style : Style) (fs : List (Value × Value)) (s : String) : Prop :=
  ∃ texts : String → String,
    (∀ name ∈ frontNames, (lookup name fs).map style.spell = some (.ok (texts name))) ∧
    IsLaidOut texts style.json s

/-- The preview of the value that was put last under a name among the extra fields, if that can be
written. -/
def preview? (r : Record) (redacted : Bool) (name : String) : Option Value :=
  (lookup name r.extras.reverse).bind fun v => (safeText v usualLimit redacted).toOption.map .text

/-- The fields at the front of an entry, before anything is put over them. -/
def front (r : Record) (style : Style) : Except Fault (List (Value × Value)) := do
  let time ← r.time style.pattern
  let message ← r.text.mapError .template
  pure [(.text "timestamp", .text time), (.text "level", r.level), (.text "logger", r.logger),
    (.text "message", .text (if style.redacted then redact message else message))]

/-- The context of an entry, and what was thrown. -/
def details (r : Record) : List (Value × Value) :=
  let optional (name : String) (v : Option Value) : List (Value × Value) :=
    (v.map fun v => (.text name, v)).toList
  optional chainName (r.context? chainName) ++ optional hatName (r.context? hatName) ++
    optional "exception" (r.thrown.map fun t => .text t.text)

variable {r : Record} {style : Style} {own fs : List (Value × Value)}

theorem fields_eq (r : Record) (style : Style) :
    r.fields style = r.front style >>= fun own =>
      ((r.previews style.redacted).mapError .overlong).map (putEntries (own ++ r.details)) := by
  rw [fields, front]
  cases r.time style.pattern with
  | error fault => rfl
  | ok time =>
    cases r.text with
    | error fault => rfl
    | ok message =>
      cases r.previews style.redacted with
      | error fault => rfl
      | ok previews =>
        simp only [details, ← List.append_assoc]
        rfl

theorem fields_eq_ok :
    r.fields style = .ok fs ↔ ∃ front previews, r.front style = .ok front ∧
      r.previews style.redacted = .ok previews ∧ putEntries (front ++ r.details) previews = fs := by
  rw [fields_eq, bind_eq_ok]
  simp only [map_eq_ok, mapError_eq_ok, exists_and_left]

theorem keys_front (h : r.front style = .ok own) : own.map Prod.fst = frontNames.map .text := by
  obtain ⟨time, -, h⟩ := bind_eq_ok.mp h
  obtain ⟨message, -, h⟩ := bind_eq_ok.mp h
  cases h
  rfl

/-- What stands behind the front is not found under the names at the front. -/
theorem lookup_front_append (h : r.front style = .ok own) {name : String}
    (hname : name ∈ frontNames) (es : List (Value × Value)) :
    lookup name (own ++ es) = lookup name own := by
  have hmem : .text name ∈ own.map Prod.fst := by
    rw [keys_front h]
    exact List.mem_map_of_mem hname
  obtain ⟨v, hv⟩ := exists_lookup hmem
  rw [lookup_append, hv]
  rfl

/-! ## What is put over the front -/

/-- **Some fields have previews when each of them can be written.** -/
theorem exists_previewsOf_iff (redacted : Bool) (es : List (Value × Value)) :
    (∃ previews, previewsOf redacted es = .ok previews) ↔ ∀ e ∈ es, e.2.isWritable = true := by
  induction es with
  | nil => exact ⟨fun _ => List.forall_mem_nil _, fun _ => ⟨[], rfl⟩⟩
  | cons e es ih =>
    rw [List.forall_mem_cons, ← ih, ← exists_safeText_iff e.2 usualLimit redacted]
    constructor
    · rintro ⟨previews, h⟩
      obtain ⟨s, hs, h⟩ := bind_eq_ok.mp h
      obtain ⟨others, hothers, -⟩ := bind_eq_ok.mp h
      exact ⟨⟨s, hs⟩, others, hothers⟩
    · rintro ⟨⟨s, hs⟩, others, hothers⟩
      exact ⟨_, bind_eq_ok.mpr ⟨s, hs, bind_eq_ok.mpr ⟨others, hothers, rfl⟩⟩⟩

/-- A field and its preview. -/
def IsPreviewed (redacted : Bool) (e p : Value × Value) : Prop :=
  e.1 = p.1 ∧ (safeText e.2 usualLimit redacted).toOption.map .text = some p.2

/-- Previews stand where their fields do. -/
theorem isPreviewed_of_previewsOf {redacted : Bool} {es previews : List (Value × Value)}
    (h : previewsOf redacted es = .ok previews) :
    List.Forall₂ (IsPreviewed redacted) es previews := by
  induction es generalizing previews with
  | nil =>
    cases h
    exact .nil
  | cons e es ih =>
    obtain ⟨s, hs, h⟩ := bind_eq_ok.mp h
    obtain ⟨others, hothers, h⟩ := bind_eq_ok.mp h
    cases h
    refine .cons ⟨rfl, ?_⟩ (ih hothers)
    rw [hs]
    rfl

theorem lookup_of_isPreviewed {redacted : Bool} {es previews : List (Value × Value)}
    (h : List.Forall₂ (IsPreviewed redacted) es previews) (name : String) :
    lookup name previews =
      (lookup name es).bind fun v => (safeText v usualLimit redacted).toOption.map .text := by
  induction h with
  | nil => rfl
  | cons hep _ ih =>
    rw [lookup_cons, lookup_cons, ih, ← hep.1]
    split
    · exact hep.2.symm
    · rfl

/-- Under a hidden name nothing is found among the fields that are written, under others what was
set. -/
theorem lookup_visible (name : String) (es : List (Value × Value)) :
    lookup name (es.filter fun (k, _) => !isOneOf hiddenNames k) =
      if hiddenNames.contains name then none else lookup name es := by
  induction es with
  | nil => exact (ite_self none).symm
  | cons e es ih =>
    obtain ⟨k, v⟩ := e
    rw [lookup_cons]
    by_cases hk : k = .text name
    · subst hk
      rw [if_pos (sameKey_self name)]
      cases hhidden : hiddenNames.contains name with
      | true =>
        rw [List.filter_cons_of_neg (by simpa [isOneOf] using hhidden), ih, hhidden]
        rfl
      | false =>
        rw [List.filter_cons_of_pos (by simpa [isOneOf] using hhidden), lookup_cons,
          if_pos (sameKey_self name)]
        rfl
    · -- Another key is not found, whether it is kept or not.
      have hother := mt sameKey_text.mp hk
      rw [if_neg hother]
      cases hhidden : isOneOf hiddenNames k with
      | true => rw [List.filter_cons_of_neg (by simp [hhidden]), ih]
      | false => rw [List.filter_cons_of_pos (by simp [hhidden]), lookup_cons, if_neg hother, ih]

/-- **What the extra fields put under a name**: the preview of the last value there, and nothing
under a hidden name. -/
theorem lookup_previews {redacted : Bool} {previews : List (Value × Value)}
    (h : r.previews redacted = .ok previews) (name : String) :
    lookup name previews.reverse =
      if hiddenNames.contains name then none else r.preview? redacted name := by
  have hreverse := List.rel_reverse (isPreviewed_of_previewsOf h)
  rw [lookup_of_isPreviewed hreverse, written, ← List.filter_reverse, lookup_visible, preview?]
  split <;> rfl

/-- An entry has the same front with and without its extra fields, before they are put over it. -/
theorem exists_front (hown : r.bare.fields style = .ok own) :
    ∃ front, r.front style = .ok front ∧ own = front ++ r.bare.details := by
  obtain ⟨front, previews, hfront, hpreviews, rfl⟩ := fields_eq_ok.mp hown
  cases hpreviews
  exact ⟨front, hfront, rfl⟩

/-- An entry that has no fields without its extra fields has none at its front. -/
theorem front_eq_error {fault : Fault} (h : r.bare.fields style = .error fault) :
    r.front style = .error fault := by
  rw [fields_eq] at h
  exact (bind_eq_error.mp h).resolve_right fun ⟨_, _, h⟩ => nomatch h

/-- The fields at the front with the extra fields put over them. -/
theorem lookup_fields (hown : r.bare.fields style = .ok own) (hfs : r.fields style = .ok fs)
    {name : String} (hname : name ∈ frontNames) :
    lookup name fs =
      (if hiddenNames.contains name then none else r.preview? style.redacted name).or
        (lookup name own) := by
  obtain ⟨front, hfront, rfl⟩ := exists_front hown
  obtain ⟨_, previews, hfront', hpreviews, rfl⟩ := fields_eq_ok.mp hfs
  cases hfront.symm.trans hfront'
  rw [lookup_putEntries, lookup_previews hpreviews, lookup_front_append hfront hname,
    lookup_front_append hfront hname]

theorem keys_fields (hfs : r.fields style = .ok fs) :
    frontNames.map .text <+: fs.map Prod.fst := by
  obtain ⟨front, previews, hfront, -, rfl⟩ := fields_eq_ok.mp hfs
  refine List.IsPrefix.trans ?_ (keys_prefix_putEntries _ _)
  rw [List.map_append, keys_front hfront]
  exact List.prefix_append _ _

/-! ## The text of an entry -/

section Written

variable {s : String}

theorem write_object_eq_ok (hjson : style.json = true) :
    r.write style = .ok s ↔ ∃ fs, r.fields style = .ok fs ∧
      ∃ ss, jsonEntries fs = .ok ss ∧ s = "\x7b" ++ ", ".intercalate ss ++ "\x7d" := by
  rw [write, bind_eq_ok, hjson]
  simp only [if_true, mapError_eq_ok, json_dict_eq_ok]

theorem write_line_eq_ok (hjson : style.json = false) :
    r.write style = .ok s ↔ ∃ fs, r.fields style = .ok fs ∧ r.plainLine fs = .ok s := by
  rw [write, bind_eq_ok, hjson]
  simp only [Bool.false_eq_true, if_false, mapError_eq_ok]

theorem exists_shownField_iff {name : String} :
    (∃ t, shownField fs name = .ok t) ↔ ∀ v, lookup name fs = some v → v.isWritable = true := by
  rw [shownField]
  cases lookup name fs with
  | none => simp
  | some v => simp [exists_toPlain_iff]

theorem exists_shownContext_iff {name : String} :
    (∃ ts, r.shownContext name = .ok ts) ↔
      ∀ v, r.context? name = some v → v.isWritable = true := by
  rw [shownContext]
  cases r.context? name with
  | none => simp
  | some v => simp [exists_map_eq_ok_iff, exists_toPlain_iff]

/-- A line by the texts of its parts. -/
theorem plainLine_eq_ok :
    r.plainLine fs = .ok s ↔ ∃ (texts : String → String) (chain hat : List String),
      (∀ name ∈ frontNames, shownField fs name = .ok (texts name)) ∧
      r.shownContext chainName = .ok chain ∧ r.shownContext hatName = .ok hat ∧
      " ".intercalate (["[" ++ texts "timestamp" ++ "]", texts "level", texts "logger"] ++
        (chain ++ hat) ++ [": " ++ texts "message"]) = s := by
  constructor
  · intro h
    obtain ⟨timestamp, htimestamp, h⟩ := bind_eq_ok.mp h
    obtain ⟨level, hlevel, h⟩ := bind_eq_ok.mp h
    obtain ⟨logger, hlogger, h⟩ := bind_eq_ok.mp h
    obtain ⟨chain, hchain, h⟩ := bind_eq_ok.mp h
    obtain ⟨hat, hhat, h⟩ := bind_eq_ok.mp h
    obtain ⟨message, hmessage, h⟩ := bind_eq_ok.mp h
    cases h
    -- The texts that were read, as one function of the names of their fields.
    have hall : ∀ name ∈ frontNames, ∃ t, shownField fs name = .ok t := by
      simp [frontNames, htimestamp, hlevel, hlogger, hmessage]
    choose! texts htexts using hall
    refine ⟨texts, chain, hat, htexts, hchain, hhat, ?_⟩
    cases htimestamp.symm.trans (htexts "timestamp" (by decide))
    cases hlevel.symm.trans (htexts "level" (by decide))
    cases hlogger.symm.trans (htexts "logger" (by decide))
    cases hmessage.symm.trans (htexts "message" (by decide))
    rw [← List.append_assoc]
  · rintro ⟨texts, chain, hat, htexts, hchain, hhat, rfl⟩
    rw [plainLine, htexts "timestamp" (by decide), htexts "level" (by decide),
      htexts "logger" (by decide), htexts "message" (by decide), hchain, hhat, ← List.append_assoc]
    rfl

/-- **A line is written** when the fields at its front and the context can be. -/
theorem exists_plainLine_iff :
    (∃ s, r.plainLine fs = .ok s) ↔
      (∀ name ∈ frontNames, ∀ v, lookup name fs = some v → v.isWritable = true) ∧
        ∀ name ∈ [chainName, hatName], ∀ v, r.context? name = some v → v.isWritable = true := by
  simp only [← exists_shownField_iff, ← exists_shownContext_iff, plainLine_eq_ok]
  constructor
  · rintro ⟨_, texts, chain, hat, htexts, hchain, hhat, -⟩
    refine ⟨fun name hname => ⟨_, htexts name hname⟩, ?_⟩
    simp [hchain, hhat]
  · rintro ⟨hfront, hcontext⟩
    choose! texts htexts using hfront
    obtain ⟨chain, hchain⟩ := hcontext chainName (by decide)
    obtain ⟨hat, hhat⟩ := hcontext hatName (by decide)
    exact ⟨_, texts, chain, hat, htexts, hchain, hhat, rfl⟩

/-- **What the text of an entry shows** are its fields. -/
theorem shows_of_write (hfs : r.fields style = .ok fs) (hs : r.write style = .ok s) :
    Shows style fs s := by
  have hkeys := keys_fields hfs
  rw [Shows]
  cases hjson : style.json with
  | true =>
    have hspell : style.spell = json := by
      funext v
      rw [Style.spell, hjson]
      rfl
    obtain ⟨fs', hfs', ss, hss, rfl⟩ := (write_object_eq_ok hjson).mp hs
    cases hfs.symm.trans hfs'
    obtain ⟨texts, others, htexts, rfl⟩ := jsonEntries_of_prefix (by decide) hkeys hss
    rw [hspell]
    exact ⟨texts, htexts, .object others⟩
  | false =>
    obtain ⟨fs', hfs', hline⟩ := (write_line_eq_ok hjson).mp hs
    cases hfs.symm.trans hfs'
    obtain ⟨texts, chain, hat, htexts, -, -, rfl⟩ := plainLine_eq_ok.mp hline
    refine ⟨texts, fun name hname => ?_, .line (chain ++ hat)⟩
    obtain ⟨v, hv⟩ := exists_lookup (hkeys.subset (List.mem_map_of_mem hname))
    have htext := htexts name hname
    rw [shownField, hv] at htext
    rw [hv, Option.map_some, Style.spell, hjson]
    exact congrArg some (mapError_eq_ok.mpr htext)

theorem hasJson_of_isPreviewed {redacted : Bool} {es previews : List (Value × Value)}
    (h : List.Forall₂ (IsPreviewed redacted) es previews)
    (hkeys : ∀ e ∈ es, ∃ t, jsonKey e.1 = .ok t) : ∀ p ∈ previews, HasJson p := by
  induction h with
  | nil => exact List.forall_mem_nil _
  | cons hep _ ih =>
    rw [List.forall_mem_cons] at hkeys ⊢
    obtain ⟨s, -, hs⟩ := Option.map_eq_some_iff.mp hep.2
    refine ⟨?_, ih hkeys.2⟩
    rw [HasJson, ← hep.1, ← hs]
    exact ⟨hkeys.1, _, rfl⟩

variable (hkeys : ∀ e ∈ r.extras, ∃ t, jsonKey e.1 = .ok t)
  (hcontext : ∀ name ∈ [chainName, hatName], ∀ v, r.context? name = some v → ∃ t, v.json = .ok t)

include hcontext in
theorem hasJson_details : ∀ e ∈ r.details, HasJson e := by
  have hoptional (name : String) (v : Option Value) (hv : ∀ w, v = some w → ∃ t, json w = .ok t) :
      ∀ e ∈ (v.map fun w => (Value.text name, w)).toList, HasJson e := by
    intro e he
    obtain ⟨w, hw, rfl⟩ := Option.map_eq_some_iff.mp (Option.mem_toList.mp he)
    exact ⟨⟨name, rfl⟩, hv w hw⟩
  rw [details]
  simp only [List.forall_mem_append]
  refine ⟨⟨hoptional _ _ (hcontext _ ?_), hoptional _ _ (hcontext _ ?_)⟩, hoptional _ _ ?_⟩
  · exact List.mem_cons_self
  · exact List.mem_cons_of_mem _ List.mem_cons_self
  · intro w hw
    obtain ⟨t, -, rfl⟩ := Option.map_eq_some_iff.mp hw
    exact ⟨_, rfl⟩

/-- What is put over the front can be written, as it is a text. -/
theorem isWritable_of_lookup_fields (hown : r.bare.fields style = .ok own)
    (hfs : r.fields style = .ok fs) {name : String} (hname : name ∈ frontNames)
    (hwritable : ∀ v, lookup name own = some v → v.isWritable = true) {v : Value}
    (hv : lookup name fs = some v) : v.isWritable = true := by
  rw [lookup_fields hown hfs hname, Option.or_eq_some_iff] at hv
  rcases hv with hv | ⟨-, hv⟩
  · split at hv
    next => cases hv
    next =>
      obtain ⟨w, -, hv⟩ := Option.bind_eq_some_iff.mp hv
      obtain ⟨s, -, rfl⟩ := Option.map_eq_some_iff.mp hv
      rfl
  · exact hwritable v hv

include hkeys hcontext in
/-- An entry is written with the extra fields that have previews if it is written without them,
where the keys of the extra fields and the context have JSON texts. -/
theorem exists_write (hfs : r.fields style = .ok fs) (hs : r.bare.write style = .ok s) :
    ∃ s, r.write style = .ok s := by
  cases hjson : style.json with
  | false =>
    obtain ⟨own, hown, hline⟩ := (write_line_eq_ok hjson).mp hs
    obtain ⟨hfront, -⟩ := exists_plainLine_iff.mp ⟨s, hline⟩
    -- The front can be written without the extra fields, and previews can be written.
    have hwritable : ∃ s, r.plainLine fs = .ok s := by
      refine exists_plainLine_iff.mpr ⟨fun name hname v hv => ?_, fun name hname v hv => ?_⟩
      · exact isWritable_of_lookup_fields hown hfs hname (hfront name hname) hv
      · obtain ⟨t, ht⟩ := hcontext name hname v hv
        exact isWritable_of_json v ht
    obtain ⟨s', hs'⟩ := hwritable
    exact ⟨s', (write_line_eq_ok hjson).mpr ⟨fs, hfs, hs'⟩⟩
  | true =>
    obtain ⟨own, hown, ss, hss, -⟩ := (write_object_eq_ok hjson).mp hs
    obtain ⟨front, hfront, rfl⟩ := exists_front hown
    obtain ⟨_, previews, hfront', hpreviews, rfl⟩ := fields_eq_ok.mp hfs
    cases hfront.symm.trans hfront'
    have hown := (List.forall_mem_append.mp (hasJson_of_jsonEntries hss)).1
    have hbefore := List.forall_mem_append.mpr ⟨hown, hasJson_details hcontext⟩
    have hwritten : ∀ e ∈ r.written, ∃ t, jsonKey e.1 = .ok t := fun e he =>
      hkeys e (List.mem_of_mem_filter he)
    obtain ⟨ss', hss'⟩ := exists_jsonEntries (hasJson_putEntries hbefore
      (hasJson_of_isPreviewed (isPreviewed_of_previewsOf hpreviews) hwritten))
    exact ⟨_, (write_object_eq_ok hjson).mpr ⟨_, hfs, ss', hss', rfl⟩⟩

end Written

/-- **How extra fields change the front of an entry.** Those that are written have to be writable.
Then the time, the level and the logger are each replaced by the preview of the extra field of that
name that was set last, in an object and in a line; the message stays. So the front is that of the
entry without its extra fields exactly when each of these previews is what it replaces. -/
theorem extras_over_front (r : Record) (style : Style) :
    (∀ fault, r.bare.fields style = .error fault → r.write style = .error fault) ∧
    ∀ own, r.bare.fields style = .ok own →
      ((∃ fs, r.fields style = .ok fs) ↔ ∀ e ∈ r.written, e.2.isWritable = true) ∧
      ((∃ e ∈ r.written, e.2.isWritable = false) → r.write style = .error (.overlong {})) ∧
      ∀ fs, r.fields style = .ok fs →
        (∀ name ∈ ["timestamp", "level", "logger"],
          lookup name fs = (r.preview? style.redacted name).or (lookup name own)) ∧
        lookup "message" fs = lookup "message" own ∧
        ((∀ name ∈ frontNames, lookup name fs = lookup name own) ↔
          ∀ name ∈ ["timestamp", "level", "logger"], ∀ v,
            r.preview? style.redacted name = some v → lookup name own = some v) ∧
        (∀ s, r.bare.write style = .ok s → Shows style own s) ∧
        (∀ s, r.write style = .ok s → Shows style fs s) ∧
        (style.json = false → ((∃ s, r.write style = .ok s) ↔
          (∀ name ∈ frontNames, ∀ v, lookup name fs = some v → v.isWritable = true) ∧
            ∀ name ∈ [chainName, hatName], ∀ v, r.context? name = some v → v.isWritable = true)) ∧
        ∀ s, r.bare.write style = .ok s →
          (∀ e ∈ r.extras, ∃ t, jsonKey e.1 = .ok t) →
          (∀ name ∈ [chainName, hatName], ∀ v, r.context? name = some v → ∃ t, v.json = .ok t) →
          ∃ s, r.write style = .ok s := by
  constructor
  · intro fault h
    rw [write, fields_eq, front_eq_error h]
    rfl
  intro own hown
  obtain ⟨front, hfront, -⟩ := exists_front hown
  have hpreviewed := exists_previewsOf_iff style.redacted r.written
  refine ⟨?_, fun hoverlong => ?_, fun fs hfs => ?_⟩
  · rw [← hpreviewed]
    simp only [fields_eq_ok, previews]
    exact ⟨fun ⟨_, _, previews, _, h, _⟩ => ⟨previews, h⟩,
      fun ⟨previews, h⟩ => ⟨_, front, previews, hfront, h, rfl⟩⟩
  · rw [write, fields_eq, hfront, previews]
    cases h : previewsOf style.redacted r.written with
    | error fault => rfl
    | ok previews =>
      obtain ⟨e, he, hwritable⟩ := hoverlong
      rw [hpreviewed.mp ⟨previews, h⟩ e he] at hwritable
      cases hwritable
  have hopen : ∀ name ∈ ["timestamp", "level", "logger"],
      lookup name fs = (r.preview? style.redacted name).or (lookup name own) := by
    intro name hname
    -- Attributes of a record are hidden by their own names, which differ from these.
    have hshown : hiddenNames.contains name = false ∧ name ∈ frontNames := by
      revert name
      decide
    rw [lookup_fields hown hfs hshown.2, hshown.1]
    rfl
  have hmessage : lookup "message" fs = lookup "message" own :=
    lookup_fields hown hfs (by decide)
  refine ⟨hopen, hmessage, ⟨?_, ?_⟩, fun s hs => shows_of_write hown hs,
    fun s hs => shows_of_write hfs hs, fun hjson => ?_,
    fun s hs hkeys hcontext => exists_write hkeys hcontext hfs hs⟩
  · intro hsame name hname v hv
    have hmem : name ∈ frontNames := List.mem_append_left ["message"] hname
    rw [← hsame name hmem, hopen name hname, hv]
    rfl
  · intro hsame name hname
    have hparts : name ∈ ["timestamp", "level", "logger"] ++ ["message"] := hname
    rcases List.mem_append.mp hparts with hname | hname
    · rw [hopen name hname]
      cases hv : r.preview? style.redacted name with
      | none => rfl
      | some v => exact (hsame name hname v hv).symm
    · rw [List.mem_singleton.mp hname]
      exact hmessage
  · rw [← exists_plainLine_iff]
    simp only [write_line_eq_ok hjson, hfs, Except.ok.injEq, exists_eq_left']

/-- An entry with an extra field that has the name of the level. -/
def relabeled : Record :=
  { logger := .text "test", level := .text "INFO", message := .text "hello", arguments := .tuple [],
    extras := [(.text "level", .text "DEBUG")] }

/-- An entry at the level `INFO` that is written as one at the level `DEBUG`, as an object and as a
line. -/
theorem extras_over_front_relabeled :
    (∃ own fs s, relabeled.bare.fields {} = .ok own ∧ relabeled.fields {} = .ok fs ∧
      (lookup "level" own).map plain = some "INFO" ∧ lookup "level" fs = some (.text "DEBUG") ∧
      lookup "message" fs = lookup "message" own ∧ relabeled.write {} = .ok s ∧ Shows {} fs s) ∧
    (relabeled.bare.write { json := false }).toOption =
      some "[1970-01-01 00:00:00,000] INFO test : hello" ∧
    (relabeled.write { json := false }).toOption =
      some "[1970-01-01 00:00:00,000] DEBUG test : hello" := by
  refine ⟨?_, by decide +kernel, by decide +kernel⟩
  have hlevel : ((relabeled.bare.fields {}).toOption.bind (lookup "level")).map plain =
      some "INFO" := by decide +kernel
  have hwritten : (relabeled.bare.write {}).toOption.isSome = true := by decide +kernel
  have hsafe : safeText (.text "DEBUG") usualLimit true = .ok "DEBUG" := by decide +kernel
  have hpreview : relabeled.preview? true "level" = some (.text "DEBUG") :=
    congrArg (·.toOption.map Value.text) hsafe
  cases hown : relabeled.bare.fields {} with
  | error fault =>
    rw [hown] at hlevel
    cases hlevel
  | ok own =>
    cases hbare : relabeled.bare.write {} with
    | error fault =>
      rw [hbare] at hwritten
      cases hwritten
    | ok bare =>
      rw [hown] at hlevel
      obtain ⟨hfields, -, hall⟩ := (extras_over_front relabeled {}).2 own hown
      obtain ⟨fs, hfs⟩ := hfields.mpr (by decide)
      obtain ⟨hopen, hmessage, -, -, hshows, -, hwrite⟩ := hall fs hfs
      obtain ⟨s, hs⟩ := hwrite bare hbare (List.forall_mem_singleton.mpr ⟨"level", rfl⟩) (by
        intro name hname v hv
        rcases List.mem_cons.mp hname with rfl | hname
        · cases hv
        · rw [List.mem_singleton.mp hname] at hv
          cases hv)
      refine ⟨own, fs, s, rfl, hfs, hlevel, ?_, hmessage, hs, hshows s hs⟩
      exact (hopen "level" (by decide)).trans (by rw [hpreview]; rfl)

end Record

end Log

end HatTree
