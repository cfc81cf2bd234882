import Mathlib.Data.Bool.AllAny
import Mathlib.Data.List.DropRight
import Mailroom.Imap.Folder
import Mailroom.Imap.MailboxName
import Mailroom.Proofs.Imap.Numeral
import Mailroom.Proofs.Text.Replace
import Mailroom.Proofs.Text.Words
/-!
  Mailroom.Proofs.Imap.FolderLine
  ────────────────────────────────
  **FOLDERS ARE READ BACK FROM THE LINES THAT LIST THEM.**

  A server lists a folder on a line with its attributes, its delimiter and its name
  between quotes, or it sends the name as a literal behind the line.  Quotes and
  backslashes are escaped between quotes, and reading takes the two kinds of escapes out
  one after the other.  A literal escapes nothing, but its name is put between quotes all
  the same and read like the others.

      unescape_escaped       — both kinds of escapes are taken out again
      readFolders_line       — what is read from a line, whatever its name is like
      folder_read_back       — a name between quotes is read back
      literal_agrees_iff     — a literal is read like it when it has no escape in it
-/
namespace Mailroom.Imap

open Mailroom.Text

/-! ## §1. Lines as servers write them. -/

/-- A delimiter on a line: between quotes, or NIL. -/
def delimiterOctets : Option String → Octets
  | none => octets "NIL"
  | some d => encode (quotedName d)

/-- The line of a folder up to its name. -/
def Folder.heading (f : Folder) : Octets :=
  40 :: ([32].intercalate (f.attributes.map encode) ++ 41 :: 32 :: (delimiterOctets f.delimiter ++ [32]))

/-- A folder on a line of its own, the name between quotes. -/
def Folder.quotedItem (f : Folder) : Item := .line (f.heading ++ encode (quotedName f.name))

/-- A folder on a line that announces its name as a literal. -/
def Folder.literalItem (f : Folder) : Item :=
  .group [f.heading ++ 123 :: (numeral (encode f.name).length ++ [125]), encode f.name]

/-- An attribute of a folder: an ASCII word that closes no parenthesis. -/
structure IsAttribute (a : String) : Prop where
  nonempty : a ≠ ""
  ascii : ∀ c ∈ a.toList, c.toNat < 128
  solid : ∀ c ∈ a.toList, isBlank c = false
  inside : ')' ∉ a.toList

instance (a : String) : Decidable (IsAttribute a) :=
  decidable_of_iff (a ≠ "" ∧ (a.toList.all fun c => c.toNat < 128) = true
    ∧ (a.toList.all fun c => isBlank c = false) = true ∧ ')' ∉ a.toList)
    ⟨fun ⟨h₁, h₂, h₃, h₄⟩ =>
      ⟨h₁, List.all_iff_forall_prop.1 h₂, List.all_iff_forall_prop.1 h₃, h₄⟩,
    fun h => ⟨h.nonempty, List.all_iff_forall_prop.2 h.ascii, List.all_iff_forall_prop.2 h.solid,
      h.inside⟩⟩

/-- A folder that a line can state: its name stands on one line. -/
structure Folder.Listable (f : Folder) : Prop where
  oneLine : '\n' ∉ f.name.toList
  attributes : ∀ a ∈ f.attributes, IsAttribute a

instance (f : Folder) : Decidable f.Listable :=
  decidable_of_iff ('\n' ∉ f.name.toList ∧ ∀ a ∈ f.attributes, IsAttribute a)
    ⟨fun ⟨h₁, h₂⟩ => ⟨h₁, h₂⟩, fun h => ⟨h.oneLine, h.attributes⟩⟩

/-! ## §2. Escapes. -/

section

variable {cs : List Char} {w r t : Octets}

/-- The escapes of a name. -/
def escaped (cs : List Char) : List Char := cs.flatMap escapedNameChar

/-- The text of a name between quotes without its escapes: first those of quotes, then
those of backslashes. -/
def unescape (cs : List Char) : List Char :=
  replaceAll ['\\', '\\'] ['\\'] (replaceAll ['\\', '"'] ['"'] cs)

/-- The characters of a name, only its backslashes escaped. -/
def doubled (cs : List Char) : List Char :=
  cs.flatMap fun c => if c = '\\' then ['\\', '\\'] else [c]

theorem escapedNameChar_special {c : Char} (h : c = '"' ∨ c = '\\') :
    escapedNameChar c = ['\\', c] := by
  rcases h with rfl | rfl <;> rfl

theorem escapedNameChar_plain {c : Char} (hquote : c ≠ '"') (hslash : c ≠ '\\') :
    escapedNameChar c = [c] := by
  simp [escapedNameChar, hquote, hslash]

theorem escaped_cons (c : Char) (cs : List Char) :
    escaped (c :: cs) = escapedNameChar c ++ escaped cs := List.flatMap_cons

theorem doubled_cons (c : Char) (cs : List Char) :
    doubled (c :: cs) = (if c = '\\' then ['\\', '\\'] else [c]) ++ doubled cs := List.flatMap_cons

/-- No quote stands at the front of an escaped name. -/
theorem not_prefix_escaped (cs : List Char) : ¬ ['"'] <+: escaped cs := by
  cases cs with
  | nil => exact fun h => absurd (List.prefix_nil.1 h) (List.cons_ne_nil _ _)
  | cons c cs =>
    rw [escaped_cons, escapedNameChar]
    split
    next => exact fun h => absurd (List.cons_prefix_cons.1 h).1 (by decide)
    next h =>
      rintro hquote
      obtain ⟨rfl, -⟩ := List.cons_prefix_cons.1 hquote
      exact h rfl

/-- The first pass leaves the backslashes as they are. -/
theorem replaceAll_escaped (cs : List Char) :
    replaceAll ['\\', '"'] ['"'] (escaped cs) = doubled cs := by
  induction cs with
  | nil => rfl
  | cons c cs ih =>
    rw [escaped_cons, doubled_cons, ← ih]
    by_cases hslash : c = '\\'
    · subst hslash
      -- Behind the two backslashes stands no quote of their own.
      have hfirst : ¬ ['\\', '"'] <+: '\\' :: '\\' :: escaped cs := by
        simp [List.cons_prefix_cons]
      have hsecond : ¬ ['\\', '"'] <+: '\\' :: escaped cs := fun h =>
        not_prefix_escaped cs (List.cons_prefix_cons.1 h).2
      exact (replaceAll_kept hfirst).trans (congrArg _ (replaceAll_kept hsecond))
    · rw [if_neg hslash]
      by_cases hquote : c = '"'
      · subst hquote
        exact replaceAll_occurrence (List.cons_ne_nil _ _)
      · rw [escapedNameChar_plain hquote hslash]
        refine replaceAll_kept fun h => hslash ?_
        exact (List.cons_prefix_cons.1 h).1.symm

/-- The second pass leaves the name. -/
theorem replaceAll_doubled (cs : List Char) :
    replaceAll ['\\', '\\'] ['\\'] (doubled cs) = cs := by
  induction cs with
  | nil => rfl
  | cons c cs ih =>
    rw [doubled_cons]
    by_cases hslash : c = '\\'
    · rw [if_pos hslash, replaceAll_occurrence (List.cons_ne_nil _ _), ih, hslash]
      rfl
    · rw [if_neg hslash, List.singleton_append, replaceAll_kept, ih]
      exact fun h => hslash (List.cons_prefix_cons.1 h).1.symm

/-- **Both kinds of escapes are taken out again.** -/
theorem unescape_escaped (cs : List Char) : unescape (escaped cs) = cs := by
  rw [unescape, replaceAll_escaped, replaceAll_doubled]

/-- A name without escapes in it is left as it is, and no other. -/
theorem unescape_eq_self_iff :
    unescape cs = cs ↔ ¬ ['\\', '"'] <:+: cs ∧ ¬ ['\\', '\\'] <:+: cs :=
  replaceAll_replaceAll_eq_self_iff (by decide) (by decide)

theorem encode_quotedName (s : String) :
    encode (quotedName s) = 34 :: (encodeChars (escaped s.toList) ++ [34]) := by
  rw [encode, quotedName, String.toList_ofList, List.cons_append, encodeChars_cons,
    encodeChars_append]
  rfl

/-- What stands between quotes is read without its escapes. -/
theorem unquote_between (cs : List Char) :
    unquote (34 :: (encodeChars cs ++ [34])) = String.ofList (unescape cs) := by
  have hread : decodeChars (34 :: (encodeChars cs ++ [34])) = '"' :: (cs ++ ['"']) := by
    have hquotes : 34 :: (encodeChars cs ++ [34]) = encodeChars ('"' :: (cs ++ ['"'])) := by
      rw [encodeChars_cons, encodeChars_append]
      rfl
    rw [hquotes, decodeChars_encodeChars]
  have hlast : ((cs ++ ['"']).getLast? == some '"') = true := by simp
  unfold unquote
  rw [hread]
  exact (if_pos hlast).trans (by rw [List.dropLast_concat]; rfl)

/-! ## §3. Parts of a line. -/

/-- Octets that are neither quotes nor backslashes are passed over. -/
theorem upToQuote?_append (hquote : 34 ∉ w) (hslash : 92 ∉ w) :
    upToQuote? (w ++ r) = (upToQuote? r).map fun (inner, after) => (w ++ inner, after) := by
  induction w with
  | nil => simp
  | cons b w ih =>
    rw [List.mem_cons, not_or] at hquote hslash
    rw [List.cons_append, upToQuote?.eq_5 b (w ++ r) (fun h => hquote.1 h.symm)
      (fun _ _ h _ => hslash.1 h.symm) (fun h _ => hslash.1 h.symm),
      ih hquote.2 hslash.2, Option.map_map]
    rfl

/-- An escaped character is two octets, and the second is no line feed. -/
theorem encodeChars_escape {c : Char} (h : c = '\\' ∨ c = '"') :
    ∃ b, encodeChars (escapedNameChar c) = [92, b] ∧ (b == 10) = false := by
  rcases h with rfl | rfl
  · exact ⟨92, rfl, rfl⟩
  · exact ⟨34, rfl, rfl⟩

/-- **A name is read up to its closing quote**, by induction on its characters. -/
theorem upToQuote?_escaped (cs : List Char) (t : Octets) :
    upToQuote? (encodeChars (escaped cs) ++ 34 :: t) = some (encodeChars (escaped cs), t) := by
  induction cs with
  | nil => rfl
  | cons c cs ih =>
    rw [escaped_cons, encodeChars_append, List.append_assoc]
    by_cases hescape : c = '\\' ∨ c = '"'
    · obtain ⟨b, hb, hline⟩ := encodeChars_escape hescape
      rw [hb, List.cons_append, List.singleton_append, upToQuote?.eq_3, hline,
        if_neg Bool.false_ne_true, ih]
      rfl
    · rw [not_or] at hescape
      have hother : ∀ d : Char, c ≠ d → d ∉ [c] := fun d hd h => hd (List.mem_singleton.1 h).symm
      rw [escapedNameChar_plain hescape.2 hescape.1,
        upToQuote?_append (not_mem_encodeChars (by decide) (hother '"' hescape.2))
          (not_mem_encodeChars (by decide) (hother '\\' hescape.1)), ih]
      rfl

theorem delimiter?_octets (d : Option String) (name : Octets) :
    delimiter? (delimiterOctets d ++ 32 :: name) = some (d, name) := by
  cases d with
  | none => rfl
  | some d =>
    have hline : delimiterOctets (some d) ++ 32 :: name
        = 34 :: (encodeChars (escaped d.toList) ++ 34 :: 32 :: name) := by
      rw [delimiterOctets, encode_quotedName, List.cons_append, List.append_assoc]
      rfl
    have hread : unquote (34 :: encodeChars (escaped d.toList) ++ [34]) = d := by
      rw [List.cons_append, unquote_between, unescape_escaped, String.ofList_toList]
    rw [hline, delimiter?, upToQuote?_escaped]
    exact congrArg some (Prod.ext (congrArg some hread) rfl)

/-! ## §4. Whole lines. -/

variable {f : Folder} {item : Item} {inner name : Octets}

theorem mem_escaped {c : Char} (h : c ∈ escaped cs) : c = '\\' ∨ c ∈ cs := by
  obtain ⟨d, hd, hc⟩ := List.mem_flatMap.1 h
  rw [escapedNameChar] at hc
  split at hc
  · simp only [List.mem_cons, List.not_mem_nil, or_false] at hc
    exact hc.imp_right fun heq => by rwa [heq]
  · exact .inr (List.mem_singleton.1 hc ▸ hd)

theorem attributes_read (h : ∀ a ∈ f.attributes, IsAttribute a) :
    (byteWords ([32].intercalate (f.attributes.map encode))).map decodeAscii = f.attributes := by
  have hwords : ∀ w ∈ f.attributes.map encode, IsByteWord w := by
    intro w hw
    obtain ⟨a, ha, rfl⟩ := List.mem_map.1 hw
    exact isByteWord_encode (h a ha).nonempty (h a ha).solid
  rw [byteWords_intercalate hwords, List.map_map]
  exact (List.map_congr_left fun a ha => decodeAscii_encode (h a ha).ascii).trans (List.map_id' _)

/-- No attribute closes the parenthesis around all of them. -/
theorem not_close_attributes (h : ∀ a ∈ f.attributes, IsAttribute a) :
    ∀ b ∈ [32].intercalate (f.attributes.map encode), decide (b ≠ 41) = true := by
  intro b hb
  rw [decide_eq_true_eq]
  rintro rfl
  obtain hspace | ⟨w, hw, hmem⟩ := mem_intercalate hb
  · exact absurd hspace (by decide)
  · obtain ⟨a, ha, rfl⟩ := List.mem_map.1 hw
    exact not_mem_encodeChars (d := ')') (by decide) (h a ha).inside hmem

/-- The parts of a line are found, whatever the name is like. -/
theorem folderOfLine?_heading (h : ∀ a ∈ f.attributes, IsAttribute a) (hne : name ≠ [])
    (hline : 10 ∉ name) :
    folderOfLine? (f.heading ++ name) = some { f with name := unquote (trimBytes name) } := by
  have hsplit : f.heading ++ name = 40 :: ([32].intercalate (f.attributes.map encode)
      ++ 41 :: 32 :: (delimiterOctets f.delimiter ++ 32 :: name)) := by
    simp [Folder.heading]
  have hclose := not_close_attributes h
  rw [hsplit, folderOfLine?, List.dropWhile_append_of_pos hclose,
    List.dropWhile_cons_of_neg (by decide), List.takeWhile_append_of_pos hclose,
    List.takeWhile_cons_of_neg (by decide), List.append_nil]
  split
  next after hafter =>
    obtain rfl := (List.cons.inj (List.cons.inj hafter).2).2
    rw [delimiter?_octets, attributes_read h]
    exact if_neg (by simp [hne, hline])
  next hother => exact absurd rfl (hother _)

/-- A line between two octets that are not blank is trimmed. -/
theorem trimBytes_between {a b : UInt8} (ha : isByteBlank a = false) (hb : isByteBlank b = false)
    (bs : Octets) : trimBytes (a :: (bs ++ [b])) = a :: (bs ++ [b]) := by
  refine Trimmed.trimWhile_eq ⟨?_, ?_⟩
  · rintro _ ⟨⟩
    exact ha
  · intro x hx
    rw [← List.cons_append, List.getLast?_concat] at hx
    obtain rfl := Option.some.inj hx
    exact hb

/-- **A line with something between quotes states a folder**, named by what stands there. -/
theorem readFolders_line (h : ∀ a ∈ f.attributes, IsAttribute a) (hline : 10 ∉ inner)
    (hitem : lineOf? item = .ok (some (f.heading ++ 34 :: (inner ++ [34])))) :
    readFolders [item] = .ok [{ f with name := unquote (34 :: (inner ++ [34])) }] := by
  have htrim : trimBytes (f.heading ++ 34 :: (inner ++ [34]))
      = f.heading ++ 34 :: (inner ++ [34]) := by
    rw [← List.cons_append, ← List.append_assoc]
    exact trimBytes_between (by decide) (by decide) _
  have hfolder := folderOfLine?_heading h (List.cons_ne_nil 34 (inner ++ [34])) (by simp [hline])
  rw [trimBytes_between (by decide) (by decide)] at hfolder
  simp only [readFolders, List.mapM_cons, List.mapM_nil, hitem]
  simp [htrim, hfolder, bind, Except.bind, pure, Except.pure]

/-! ## §5. Names between quotes. -/

theorem Folder.Listable.readFolders_quoted (h : f.Listable) :
    readFolders [f.quotedItem] = .ok [f] := by
  have hline : 10 ∉ encodeChars (escaped f.name.toList) := by
    refine not_mem_encodeChars (d := '\n') (by decide) fun hmem => ?_
    rcases mem_escaped hmem with hslash | hname
    · exact absurd hslash (by decide)
    · exact h.oneLine hname
  have hitem : lineOf? f.quotedItem
      = .ok (some (f.heading ++ 34 :: (encodeChars (escaped f.name.toList) ++ [34]))) := by
    rw [Folder.quotedItem, lineOf?, encode_quotedName]
  rw [readFolders_line h.attributes hline hitem, unquote_between, unescape_escaped,
    String.ofList_toList]

/-- **A folder is read back from its line**, and no other name is quoted like its own. -/
theorem folder_read_back (f : Folder) (h : f.Listable) :
    readFolders [f.quotedItem] = .ok [f] ∧
      ∀ other : String, '\n' ∉ other.toList → quotedName other = quotedName f.name →
        other = f.name := by
  refine ⟨h.readFolders_quoted, fun other hother heq => ?_⟩
  -- Two folders of these names stand on the same line.
  have hread : readFolders [f.quotedItem] = .ok [{ f with name := other }] := by
    have hsame : f.quotedItem = ({ f with name := other } : Folder).quotedItem := by
      rw [Folder.quotedItem, Folder.quotedItem, heq]
      rfl
    rw [hsame]
    exact Folder.Listable.readFolders_quoted ⟨hother, h.attributes⟩
  rw [h.readFolders_quoted] at hread
  exact (congrArg Folder.name (List.cons.inj (Except.ok.inj hread)).1).symm

/-- A name with blanks at its ends, a quote and backslashes in front of quotes. -/
def awkwardFolder : Folder := ⟨" a\\\"\\\\\" ", ["\\HasNoChildren", "\\Sent"], some "\""⟩

theorem folder_read_back_awkward :
    awkwardFolder.Listable ∧ readFolders [awkwardFolder.quotedItem] = .ok [awkwardFolder] := by
  have hlistable : awkwardFolder.Listable := by decide
  exact ⟨hlistable, (folder_read_back awkwardFolder hlistable).1⟩

/-! ## §6. Names that come as literals. -/

/-- A name without a backslash in front of a quote or of another backslash. -/
def EscapeFree (name : String) : Prop :=
  ¬ ['\\', '"'] <:+: name.toList ∧ ¬ ['\\', '\\'] <:+: name.toList

/-- The announcement of a literal is taken from the end of a line. -/
theorem withoutSize_announced (line : Octets) (n : Nat) :
    withoutSize (line ++ 123 :: (numeral n ++ [125])) = line := by
  have hdigits : ∀ b ∈ (numeral n).reverse, isByteDigit b = true := fun b hb =>
    isByteDigit_numeral n b (List.mem_reverse.1 hb)
  have hreverse : (dropEndWhile isByteBlank (line ++ 123 :: (numeral n ++ [125]))).reverse
      = 125 :: ((numeral n).reverse ++ 123 :: line.reverse) := by
    have hbrace : ¬ isByteBlank 125 = true := by decide
    simp [dropEndWhile, List.dropWhile_cons_of_neg hbrace]
  have htake : ((numeral n).reverse ++ 123 :: line.reverse).takeWhile isByteDigit
      = (numeral n).reverse := by
    rw [List.takeWhile_append_of_pos hdigits, List.takeWhile_cons_of_neg (by decide),
      List.append_nil]
  have hdrop : ((numeral n).reverse ++ 123 :: line.reverse).dropWhile isByteDigit
      = 123 :: line.reverse := by
    rw [List.dropWhile_append_of_pos hdigits, List.dropWhile_cons_of_neg (by decide)]
  obtain ⟨digit, digits, hcons⟩ :=
    List.exists_cons_of_ne_nil (List.reverse_eq_nil_iff.not.2 (numeral_ne_nil n))
  unfold withoutSize
  rw [hreverse]
  split
  next r hr =>
    obtain rfl := (List.cons.inj hr).2
    rw [htake, hdrop, hcons]
    exact List.reverse_reverse line
  next hother => exact absurd rfl (hother _)

theorem Folder.Listable.readFolders_literal (h : f.Listable) :
    readFolders [f.literalItem]
      = .ok [{ f with name := String.ofList (unescape f.name.toList) }] := by
  have hline : 10 ∉ encodeChars f.name.toList :=
    not_mem_encodeChars (d := '\n') (by decide) h.oneLine
  have hitem : lineOf? f.literalItem
      = .ok (some (f.heading ++ 34 :: (encodeChars f.name.toList ++ [34]))) := by
    rw [Folder.literalItem, lineOf?, withoutSize_announced, List.append_assoc]
    rfl
  rw [readFolders_line h.attributes hline hitem, unquote_between]

/-- **A literal is read like a quoted name**, so the two agree, on the name of the folder,
exactly when there is nothing in the name that looks like an escape. -/
theorem literal_agrees_iff (f : Folder) (h : f.Listable) :
    readFolders [f.quotedItem] = .ok [f] ∧
      readFolders [f.literalItem]
        = .ok [{ f with name := String.ofList (unescape f.name.toList) }] ∧
      (readFolders [f.literalItem] = readFolders [f.quotedItem] ↔ EscapeFree f.name) := by
  refine ⟨h.readFolders_quoted, h.readFolders_literal, ?_⟩
  rw [h.readFolders_quoted, h.readFolders_literal, EscapeFree, ← unescape_eq_self_iff]
  constructor
  · intro heq
    have hname := congrArg Folder.name (List.cons.inj (Except.ok.inj heq)).1
    exact (String.toList_ofList).symm.trans (congrArg String.toList hname)
  · intro hname
    rw [hname, String.ofList_toList]

/-- A folder with quotes and single backslashes in its name. -/
def quotingFolder : Folder := ⟨"\"a\\b\" \\", ["\\HasNoChildren"], none⟩

theorem literal_agrees_quoting :
    quotingFolder.Listable ∧
      readFolders [quotingFolder.literalItem] = readFolders [quotingFolder.quotedItem] := by
  have hlistable : quotingFolder.Listable := by decide
  have hfree : EscapeFree quotingFolder.name := by
    unfold EscapeFree
    decide
  exact ⟨hlistable, (literal_agrees_iff quotingFolder hlistable).2.2.2 hfree⟩

/-- A folder with a backslash in front of a quote in its name. -/
def slashedFolder : Folder := ⟨"a\\\"b", ["\\HasNoChildren"], some "/"⟩

/-- **A backslash in front of a quote is lost** when the name comes as a literal. -/
theorem literal_loses_backslash :
    readFolders [slashedFolder.quotedItem] = .ok [slashedFolder] ∧
      readFolders [slashedFolder.literalItem] = .ok [{ slashedFolder with name := "a\"b" }] ∧
      ¬ ∀ f : Folder, f.Listable → readFolders [f.literalItem] = readFolders [f.quotedItem] := by
  have hquoted : readFolders [slashedFolder.quotedItem] = .ok [slashedFolder] := by decide +kernel
  have hliteral : readFolders [slashedFolder.literalItem]
      = .ok [{ slashedFolder with name := "a\"b" }] := by decide +kernel
  refine ⟨hquoted, hliteral, fun hall => ?_⟩
  have hsame := hall slashedFolder (by decide)
  rw [hquoted, hliteral] at hsame
  exact absurd hsame (by decide)

end

end Mailroom.Imap
