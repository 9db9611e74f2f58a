/-
# Boulder.Mail.Mailer -- the text of a generated mail

`generateMessage` quotes each recipient with `strconv.Quote`, after refusing any that is not
ASCII, writes the eight headers To, From, Subject, Date, Message-Id, MIME-Version, Content-Type
and Content-Transfer-Encoding, strips the LFs from them, and joins them with CRLF, followed by an
empty line and the body in quoted-printable encoding.

The loop that strips LFs runs over `range headers[1:]`, the indices 0 to 6 (`stripLFs_eq`): it
cleans the To line, which the quoting already kept clean, and skips the last, constant one, so
every variable header is cleaned. No header line then holds an LF, and a reader that takes the header block to end at
the first CRLF CRLF finds exactly the eight headers (`generateMessage_framed`). The loop removes
LFs only: a CR in the subject, in the sender's rendered address or in the sender's address inside
the Message-Id stays in its header line, and those are the only places a CR can come from
(`generateMessage_keeps_cr`).

The clock and the random source are inputs: `now` and `mid`. `mail.Address.String` and the
quoted-printable writer are parameters (`MailLibraries`); the writer's `Write` and `Close` are
one call here, which may fail.
-/
import Boulder.Core.Objects
import Boulder.Core.Util
import Boulder.Lib.GoStrings
import Boulder.Lib.GoTime
import Boulder.Lib.Lines
import Boulder.Lib.Loop

namespace Boulder.Mail

open Boulder.Core Boulder.Lib.GoStrings Boulder.Lib.GoTime Boulder.Lib.Lines Boulder.Lib.Loop

/-! ## The message -/

/-- `mail.Address`. -/
structure Address where
  name : String
  address : String
  deriving DecidableEq, Repr

/-- What `generateMessage` calls in the standard library. -/
structure MailLibraries where
  /-- `mail.Address.String`. -/
  addressString : Address → String
  /-- `quotedprintable.NewWriter` on a buffer: `Write` of the body, then `Close`. -/
  quotedPrintable : String → Except String String

/-- The field of `MailerImpl` that `generateMessage` reads: the sender, `from` in the source. -/
structure MailerImpl where
  fromAddress : Address
  deriving DecidableEq, Repr

/-- The `headers` slice, before its LFs are stripped. -/
def messageHeaders (lib : MailLibraries) (m : MailerImpl) (addrs : List String) (subject : String)
    (now : Time) (mid : ℕ) : List String :=
  ["To: " ++ join addrs ", ",
    "From: " ++ lib.addressString m.fromAddress,
    "Subject: " ++ subject,
    "Date: " ++ formatRFC822 now,
    "Message-Id: <" ++ formatStamp now ++ "." ++ toString mid ++ "." ++ m.fromAddress.address ++
      ">",
    "MIME-Version: 1.0",
    "Content-Type: text/plain; charset=UTF-8",
    "Content-Transfer-Encoding: quoted-printable"]

/-- The loop `for i := range headers[1:]`, which strips the LFs of `headers[i]`: the indices of
`headers[1:]` are `0` to `len(headers) - 2`. -/
def stripLFs (headers : List String) : List String :=
  (List.range (headers.length - 1)).foldl (fun hs i => hs.modify i fun h => replace h "\n" "")
    headers

/-- `MailerImpl.generateMessage`, with the random message ID `mid` and the time `now`; the
recipients are `to` in the source. -/
def generateMessage (lib : MailLibraries) (m : MailerImpl) (mid : ℕ) (now : Time)
    (recipients : List String) (subject body : String) : Except String String := do
  let addrs ← recipients.mapM fun a =>
    if isASCII a then .ok (quote a) else .error "Non-ASCII email address"
  let headers := stripLFs (messageHeaders lib m addrs subject now mid)
  let bodyText ← lib.quotedPrintable body
  pure (join headers "\r\n" ++ "\r\n\r\n" ++ bodyText ++ "\r\n")

/-! ## The header lines -/

theorem lf_eq_singleton : ("\n" : String) = String.singleton '\n' := rfl

/-- Stripping LFs from a string drops its LFs and keeps every other character. -/
theorem mem_replace_lf {h : String} {c : Char} :
    c ∈ (replace h "\n" "").toList ↔ c ∈ h.toList ∧ c ≠ '\n' := by
  rw [lf_eq_singleton, replace_singleton]
  simp only [List.mem_flatMap]
  constructor
  · rintro ⟨d, hd, hc⟩
    by_cases hdn : d = '\n'
    · simp [hdn] at hc
    · rw [if_neg hdn, List.mem_singleton] at hc
      exact hc ▸ ⟨hd, hdn⟩
  · rintro ⟨hc, hcn⟩
    exact ⟨c, hc, by simp [hcn]⟩

/-- **The loop skips the last header.** Over `range headers[1:]` the loop cleans every header
but the last, whatever the headers are. -/
theorem stripLFs_eq (headers : List String) :
    stripLFs headers = headers.mapIdx fun i h =>
      if i < headers.length - 1 then replace h "\n" "" else h :=
  foldl_modify_range _ headers _ (Nat.sub_le _ _)

/-- The loop cleans the first seven headers and keeps the last. -/
theorem stripLFs_messageHeaders (lib : MailLibraries) (m : MailerImpl) (addrs : List String)
    (subject : String) (now : Time) (mid : ℕ) :
    stripLFs (messageHeaders lib m addrs subject now mid) =
      [replace ("To: " ++ join addrs ", ") "\n" "",
        replace ("From: " ++ lib.addressString m.fromAddress) "\n" "",
        replace ("Subject: " ++ subject) "\n" "",
        replace ("Date: " ++ formatRFC822 now) "\n" "",
        replace ("Message-Id: <" ++ formatStamp now ++ "." ++ toString mid ++ "." ++
          m.fromAddress.address ++ ">") "\n" "",
        replace "MIME-Version: 1.0" "\n" "",
        replace "Content-Type: text/plain; charset=UTF-8" "\n" "",
        "Content-Transfer-Encoding: quoted-printable"] := by
  rw [stripLFs_eq]
  rfl

/-- What both branches of an `if` have, the `if` has. -/
theorem all_ite {α : Type} {p : Prop} [Decidable p] {a b : List α} {q : α → Bool}
    (ha : p → a.all q = true) (hb : ¬ p → b.all q = true) : (if p then a else b).all q = true := by
  by_cases h : p
  · rw [if_pos h]
    exact ha h
  · rw [if_neg h]
    exact hb h

/-- `strconv.Quote` writes printable characters only: it escapes every control character. -/
theorem all_quoteChar (c : Char) : (quoteChar c).all (fun x => decide (32 ≤ x.toNat)) = true := by
  have hdigit : ∀ v < 16, 32 ≤ (Nat.digitChar v).toNat := by decide
  unfold quoteChar
  -- the short escapes are a backslash and a printable character; branch by branch, not by
  -- `split_ifs`, which carries every negated test into every later branch
  repeat' refine all_ite (fun _ => rfl) fun _ => ?_
  refine all_ite (fun _ => ?_) fun hprint => ?_
  · simp only [hexByte, List.all_cons, List.all_nil, hdigit _ (Nat.mod_lt _ (by norm_num : 16 > 0)),
      decide_true, Bool.and_true]
    rfl
  · simp only [List.all_cons, List.all_nil, Bool.and_true, decide_eq_true_eq]
    omega

/-- A quoted recipient holds no control character, so neither CR nor LF. -/
theorem toNat_of_mem_quote {s : String} {c : Char} (hc : c ∈ (quote s).toList) : 32 ≤ c.toNat := by
  rw [quote, String.toList_ofList] at hc
  simp only [List.cons_append, List.mem_cons, List.mem_append, List.mem_flatMap] at hc
  rcases hc with rfl | ⟨d, -, hd⟩ | rfl | hnil
  · decide
  · exact of_decide_eq_true (List.all_eq_true.mp (all_quoteChar d) c hd)
  · decide
  · exact absurd hnil List.not_mem_nil

/-- Stripping LFs from a header keeps its name, which has none, in front. -/
theorem replace_lf_append {a b : String} (ha : '\n' ∉ a.toList) :
    replace (a ++ b) "\n" "" = a ++ replace b "\n" "" := by
  rw [lf_eq_singleton, replace_singleton_append, replace_singleton_of_not_mem "" ha]

/-- A cleaned header line: its name in front, no LF, and a CR only from its value. -/
theorem header_line {hdr value : String} (hlf : '\n' ∉ hdr.toList) (hcr : '\r' ∉ hdr.toList) :
    hdr.toList <+: (replace (hdr ++ value) "\n" "").toList ∧
      '\n' ∉ (replace (hdr ++ value) "\n" "").toList ∧
      ('\r' ∈ (replace (hdr ++ value) "\n" "").toList → '\r' ∈ value.toList) := by
  rw [replace_lf_append hlf, String.toList_append]
  refine ⟨List.prefix_append _ _, ?_, ?_⟩
  · intro hmem
    rcases List.mem_append.mp hmem with h | h
    · exact hlf h
    · exact (mem_replace_lf.mp h).2 rfl
  · intro hmem
    rcases List.mem_append.mp hmem with h | h
    · exact absurd h hcr
    · exact (mem_replace_lf.mp h).1

/-- The recipients' line has no CR: each recipient is quoted, and they are joined by `, `. -/
theorem cr_not_mem_join_quote (recipients : List String) :
    '\r' ∉ (join (recipients.map quote) ", ").toList := by
  intro hmem
  rw [join, String.toList_ofList] at hmem
  rcases mem_of_mem_intercalate hmem with h | ⟨x, hx, hcx⟩
  · simp at h
  · obtain ⟨y, hy, rfl⟩ := List.mem_map.mp hx
    obtain ⟨a, -, rfl⟩ := List.mem_map.mp hy
    have := toNat_of_mem_quote hcx
    simp at this

/-- The date has no CR. -/
theorem cr_not_mem_formatRFC822 (now : Time) : '\r' ∉ (formatRFC822 now).toList := fun hmem =>
  absurd (List.all_eq_true.mp (all_formatRFC822 now) _ hmem) (by decide)

/-- The Message-Id copies a CR only from the sender's address: the time stamp and the decimal
ID have none. -/
theorem cr_mem_messageId {stamp address : String} {mid : ℕ}
    (hstamp : stamp.toList.all isFormatChar = true)
    (hmem : '\r' ∈ ("<" ++ stamp ++ "." ++ toString mid ++ "." ++ address ++ ">").toList) :
    '\r' ∈ address.toList := by
  simp only [String.toList_append, List.mem_append, or_assoc] at hmem
  rcases hmem with h | h | h | h | h | h | h
  · simp at h
  · exact absurd (List.all_eq_true.mp hstamp '\r' h) (by decide)
  · simp at h
  · exact absurd h (not_mem_repr_of_not_isDigit (by decide) mid)
  · simp at h
  · exact h
  · simp at h

/-- The names of the eight headers, in order. -/
def headerNames : List String :=
  ["To", "From", "Subject", "Date", "Message-Id", "MIME-Version", "Content-Type",
    "Content-Transfer-Encoding"]

/-- **The header lines.** Each cleaned header line starts with its name and a colon, holds no
LF, and holds a CR only when it copies one from the sender's rendered address, the subject or
the sender's address. -/
theorem header_lines (lib : MailLibraries) (m : MailerImpl) (recipients : List String)
    (subject : String) (now : Time) (mid : ℕ) :
    List.Forall₂ (fun name line => (name ++ ": ").toList <+: line.toList ∧
        '\n' ∉ line.toList ∧
        ('\r' ∈ line.toList →
          (name = "From" ∧ '\r' ∈ (lib.addressString m.fromAddress).toList) ∨
          (name = "Subject" ∧ '\r' ∈ subject.toList) ∨
          (name = "Message-Id" ∧ '\r' ∈ m.fromAddress.address.toList)))
      headerNames (stripLFs (messageHeaders lib m (recipients.map quote) subject now mid)) := by
  rw [stripLFs_messageHeaders]
  have hto := @header_line "To: " (join (recipients.map quote) ", ")
    (by decide) (by decide)
  have hfrom := @header_line "From: " (lib.addressString m.fromAddress)
    (by decide) (by decide)
  have hsubject := @header_line "Subject: " subject (by decide) (by decide)
  have hdate := @header_line "Date: " (formatRFC822 now) (by decide) (by decide)
  have hid := @header_line "Message-Id: "
    ("<" ++ formatStamp now ++ "." ++ toString mid ++ "." ++ m.fromAddress.address ++ ">")
    (by decide) (by decide)
  have hidText : "Message-Id: <" ++ formatStamp now ++ "." ++ toString mid ++ "." ++
      m.fromAddress.address ++ ">" = "Message-Id: " ++
        ("<" ++ formatStamp now ++ "." ++ toString mid ++ "." ++ m.fromAddress.address ++ ">") := by
    simp only [String.append_assoc]
    rfl
  rw [hidText]
  unfold headerNames
  refine .cons ⟨hto.1, hto.2.1, fun h => absurd (hto.2.2 h) (cr_not_mem_join_quote recipients)⟩
    (.cons ⟨hfrom.1, hfrom.2.1, fun h => Or.inl ⟨rfl, hfrom.2.2 h⟩⟩
    (.cons ⟨hsubject.1, hsubject.2.1, fun h => Or.inr (Or.inl ⟨rfl, hsubject.2.2 h⟩)⟩
    (.cons ⟨hdate.1, hdate.2.1, fun h => absurd (hdate.2.2 h) (cr_not_mem_formatRFC822 now)⟩
    (.cons ⟨hid.1, hid.2.1, fun h =>
      Or.inr (Or.inr ⟨rfl, cr_mem_messageId (all_formatStamp now) (hid.2.2 h)⟩)⟩
    (.cons ?_ (.cons ?_ (.cons ?_ .nil)))))))
  · rw [lf_eq_singleton, replace_singleton_of_not_mem "" (by decide)]
    exact ⟨by decide, by decide, fun h => absurd h (by decide)⟩
  · rw [lf_eq_singleton, replace_singleton_of_not_mem "" (by decide)]
    exact ⟨by decide, by decide, fun h => absurd h (by decide)⟩
  · exact ⟨by decide, by decide, fun h => absurd h (by decide)⟩

/-! ## The message -/

/-- What a generated message is: every recipient is ASCII, the body was encoded, and the text is
the cleaned header lines joined by CRLF, an empty line, the body and a CRLF. -/
theorem generateMessage_eq_ok {lib : MailLibraries} {m : MailerImpl} {mid : ℕ} {now : Time}
    {recipients : List String} {subject body msg : String}
    (h : generateMessage lib m mid now recipients subject body = .ok msg) :
    (∀ a ∈ recipients, isASCII a = true) ∧ ∃ bodyText, lib.quotedPrintable body = .ok bodyText ∧
      msg = join (stripLFs (messageHeaders lib m (recipients.map quote) subject now mid)) "\r\n" ++
        "\r\n\r\n" ++ bodyText ++ "\r\n" := by
  unfold generateMessage at h
  obtain ⟨addrs, haddrs, hrest⟩ := bind_eq_ok.mp h
  obtain ⟨hascii, rfl⟩ := mapM_check_eq_ok haddrs
  obtain ⟨bodyText, hbody, hmsg⟩ := bind_eq_ok.mp hrest
  -- not by cases on the equation, which would unfold the strings on both sides
  exact ⟨hascii, bodyText, hbody, (Except.ok.inj hmsg).symm⟩

/-- A reader that cuts a generated message at its first CRLF CRLF gets the cleaned header lines,
joined by CRLF, and then the body. -/
theorem cut_generateMessage {lib : MailLibraries} {m : MailerImpl} {mid : ℕ} {now : Time}
    {recipients : List String} {subject body msg : String}
    (h : generateMessage lib m mid now recipients subject body = .ok msg) :
    ∃ bodyText, cut (crlf ++ crlf) msg.toList =
      some (crlf.intercalate
        ((stripLFs (messageHeaders lib m (recipients.map quote) subject now mid)).map String.toList),
        (bodyText ++ "\r\n").toList) := by
  obtain ⟨-, bodyText, -, rfl⟩ := generateMessage_eq_ok h
  refine ⟨bodyText, ?_⟩
  have hlines : ∀ l ∈ (stripLFs (messageHeaders lib m (recipients.map quote) subject now mid)).map
      String.toList, l ≠ [] ∧ '\n' ∉ l := by
    intro l hl
    obtain ⟨line, hline, rfl⟩ := List.mem_map.mp hl
    apply forall_mem_of_forall₂ _ (header_lines lib m recipients subject now mid) line hline
    rintro name line ⟨⟨t, ht⟩, hlf, -⟩
    refine ⟨fun hnil => ?_, hlf⟩
    rw [← ht, String.toList_append] at hnil
    simp at hnil
  have htext : (join (stripLFs (messageHeaders lib m (recipients.map quote) subject now mid))
      "\r\n" ++ "\r\n\r\n" ++ bodyText ++ "\r\n").toList =
        crlf.intercalate ((stripLFs (messageHeaders lib m (recipients.map quote) subject now mid)).map
          String.toList) ++ crlf ++ crlf ++ (bodyText ++ "\r\n").toList := by
    simp only [join, String.toList_append, String.toList_ofList, List.append_assoc]
    rfl
  rw [htext, cut_block _ _ hlines]

/-- The standard library's renderings, simplified: an address as its quoted name and the
address in angle brackets, the body as it is. -/
def plainMailLibraries : MailLibraries where
  addressString := fun a => quote a.name ++ " <" ++ a.address ++ ">"
  quotedPrintable := fun body => .ok body

/-- The sender of the package's test. -/
def happySender : MailerImpl := ⟨⟨"happy sender", "send@email.com"⟩⟩

/-- **The header block is well framed.** A reader that cuts a generated message at its first
CRLF CRLF gets exactly eight header lines, To, From, Subject, Date, Message-Id, MIME-Version,
Content-Type and Content-Transfer-Encoding in that order, joined by CRLF; none holds an LF, and
a line holds a CR only when it copies one from the sender's rendered address, the subject or the
sender's address. -/
theorem generateMessage_framed {lib : MailLibraries} {m : MailerImpl} {mid : ℕ} {now : Time}
    {recipients : List String} {subject body msg : String}
    (h : generateMessage lib m mid now recipients subject body = .ok msg) :
    ∃ (lines : List String) (rest : List Char), cut (crlf ++ crlf) msg.toList =
        some (crlf.intercalate (lines.map String.toList), rest) ∧
      List.Forall₂ (fun name line => (name ++ ": ").toList <+: line.toList ∧
          '\n' ∉ line.toList ∧
          ('\r' ∈ line.toList →
            (name = "From" ∧ '\r' ∈ (lib.addressString m.fromAddress).toList) ∨
            (name = "Subject" ∧ '\r' ∈ subject.toList) ∨
            (name = "Message-Id" ∧ '\r' ∈ m.fromAddress.address.toList)))
        headerNames lines := by
  obtain ⟨bodyText, hcut⟩ := cut_generateMessage h
  exact ⟨_, _, hcut, header_lines lib m recipients subject now mid⟩

theorem generateMessage_framed_example :
    ∃ msg, generateMessage plainMailLibraries happySender 1991 0 ["recv@email.com"]
        "Expiring" "body" = .ok msg ∧
      ∃ (lines : List String) (rest : List Char), cut (crlf ++ crlf) msg.toList =
          some (crlf.intercalate (lines.map String.toList), rest) ∧
        List.Forall₂ (fun name line => (name ++ ": ").toList <+: line.toList ∧
            '\n' ∉ line.toList ∧
            ('\r' ∈ line.toList →
              (name = "From" ∧
                '\r' ∈ (plainMailLibraries.addressString happySender.fromAddress).toList) ∨
              (name = "Subject" ∧ '\r' ∈ "Expiring".toList) ∨
              (name = "Message-Id" ∧ '\r' ∈ happySender.fromAddress.address.toList)))
          headerNames lines := by
  have hmsg : generateMessage plainMailLibraries happySender 1991 0 ["recv@email.com"]
      "Expiring" "body" = .ok _ := rfl
  exact ⟨_, hmsg, generateMessage_framed hmsg⟩

/-- **A CR in the subject stays in the header block.** The loop strips LFs only, so for every
subject with a CR the Subject line of the generated message holds that CR, inside a header block
that is otherwise well framed. -/
theorem generateMessage_keeps_cr {lib : MailLibraries} {m : MailerImpl} {mid : ℕ} {now : Time}
    {recipients : List String} {subject body msg : String}
    (h : generateMessage lib m mid now recipients subject body = .ok msg)
    (hcr : '\r' ∈ subject.toList) :
    ∃ (lines : List String) (rest : List Char), cut (crlf ++ crlf) msg.toList =
        some (crlf.intercalate (lines.map String.toList), rest) ∧
      lines.length = 8 ∧ ∃ line ∈ lines, "Subject: ".toList <+: line.toList ∧ '\r' ∈ line.toList := by
  obtain ⟨bodyText, hcut⟩ := cut_generateMessage h
  refine ⟨_, _, hcut, by rw [stripLFs_messageHeaders]; rfl,
    replace ("Subject: " ++ subject) "\n" "", ?_, ?_, ?_⟩
  · rw [stripLFs_messageHeaders]
    simp
  · exact (header_line (by decide) (by decide)).1
  · rw [replace_lf_append (by decide), String.toList_append]
    exact List.mem_append_right _ (mem_replace_lf.mpr ⟨hcr, by decide⟩)

theorem generateMessage_keeps_cr_example :
    ∃ msg, generateMessage plainMailLibraries happySender 1991 0 ["recv@email.com"]
        "Expiring\r" "body" = .ok msg ∧
      ∃ (lines : List String) (rest : List Char), cut (crlf ++ crlf) msg.toList =
          some (crlf.intercalate (lines.map String.toList), rest) ∧
        lines.length = 8 ∧ ∃ line ∈ lines, "Subject: ".toList <+: line.toList ∧
          '\r' ∈ line.toList := by
  have hmsg : generateMessage plainMailLibraries happySender 1991 0 ["recv@email.com"]
      "Expiring\r" "body" = .ok _ := rfl
  exact ⟨_, hmsg, generateMessage_keeps_cr hmsg (by decide)⟩

end Boulder.Mail
