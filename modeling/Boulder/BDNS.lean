/-
# Boulder.BDNS -- the address filter of the DNS resolver (package `bdns`)

`DNSResolverImpl.LookupHost` asks for the A and AAAA records of a name and drops every address
that lies in a private or reserved block, unless the resolver allows restricted addresses. The
blocks are two tables: `privateNetworks`, address and mask bytes written out by hand under a
comment naming the CIDR block each entry stands for, and `privateV6Networks`, parsed from CIDR
strings. The DNS exchange itself (with its retries) is a function of the resolver.

`isPrivateV4_iff` reads off the blocks the IPv4 table holds: `encodedV4Blocks`. Two of them are
not the reserved blocks of `reservedV4Blocks`, which the comments and RFCs name: the entry under
`198.51.100.0/24` (TEST-NET-2, RFC 5737) holds `192.51.100.0`, and the RFC 2544 benchmarking
block `198.18.0.0/15` is written, and commented, as `192.18.0.0/15`. So the reserved addresses of
`198.51.100.0/24` and `198.18.0.0/15` pass the filter (`lookupHost_admits_test_net`), while the
public blocks `192.51.100.0/24` and `192.18.0.0/15` are dropped. The IPv6 table blocks exactly
the twelve blocks its strings name (`isPrivateV6_iff`).
-/
import Boulder.Lib.GoNet

namespace Boulder.BDNS

open Boulder.Lib.GoNet

/-! ## The tables -/

/-- `privateNetworks`, entry for entry; the comments are the source's. -/
def privateNetworks : List IPNet := [
  -- RFC1918: 10.0.0.0/8, 172.16.0.0/12, 192.168.0.0/16
  ⟨[10, 0, 0, 0], [255, 0, 0, 0]⟩,
  ⟨[172, 16, 0, 0], [255, 240, 0, 0]⟩,
  ⟨[192, 168, 0, 0], [255, 255, 0, 0]⟩,
  -- RFC5735: 127.0.0.0/8
  ⟨[127, 0, 0, 0], [255, 0, 0, 0]⟩,
  -- RFC1122 Section 3.2.1.3: 0.0.0.0/8
  ⟨[0, 0, 0, 0], [255, 0, 0, 0]⟩,
  -- RFC3927: 169.254.0.0/16
  ⟨[169, 254, 0, 0], [255, 255, 0, 0]⟩,
  -- RFC 5736: 192.0.0.0/24
  ⟨[192, 0, 0, 0], [255, 255, 255, 0]⟩,
  -- RFC 5737: 192.0.2.0/24, 198.51.100.0/24, 203.0.113.0/24
  ⟨[192, 0, 2, 0], [255, 255, 255, 0]⟩,
  ⟨[192, 51, 100, 0], [255, 255, 255, 0]⟩,
  ⟨[203, 0, 113, 0], [255, 255, 255, 0]⟩,
  -- RFC 3068: 192.88.99.0/24
  ⟨[192, 88, 99, 0], [255, 255, 255, 0]⟩,
  -- RFC 2544: 192.18.0.0/15
  ⟨[192, 18, 0, 0], [255, 254, 0, 0]⟩,
  -- RFC 3171: 224.0.0.0/4
  ⟨[224, 0, 0, 0], [240, 0, 0, 0]⟩,
  -- RFC 1112: 240.0.0.0/4
  ⟨[240, 0, 0, 0], [240, 0, 0, 0]⟩,
  -- RFC 919 Section 7: 255.255.255.255/32
  ⟨[255, 255, 255, 255], [255, 255, 255, 255]⟩,
  -- RFC 6598: 100.64.0.0./10
  ⟨[100, 64, 0, 0], [255, 192, 0, 0]⟩]

/-- `parseCidr`: `net.ParseCIDR` of a literal. The source panics on a malformed one; every
literal of `privateV6Networks` parses (`privateV6Networks_eq`). -/
def parseCidr (network : String) : IPNet :=
  match parseCIDR network with
  | some (_, n) => n
  | none => ⟨[], []⟩

/-- `privateV6Networks`, from the registry of special IPv6 addresses, with the 6to4 prefix. -/
def privateV6Networks : List IPNet := [
  parseCidr "::/128",
  parseCidr "::1/128",
  parseCidr "::ffff:0:0/96",
  parseCidr "100::/64",
  parseCidr "2001::/23",
  parseCidr "2001:2::/48",
  parseCidr "2001:db8::/32",
  parseCidr "2001::/32",
  parseCidr "fc00::/7",
  parseCidr "fe80::/10",
  parseCidr "ff00::/8",
  parseCidr "2002::/16"]

/-- `isPrivateV4`. -/
def isPrivateV4 (ip : NetIP) : Bool :=
  privateNetworks.any (·.contains ip)

/-- `isPrivateV6`. -/
def isPrivateV6 (ip : NetIP) : Bool :=
  privateV6Networks.any (·.contains ip)

/-! ## The blocks the tables stand for -/

/-- The IPv4 address `a.b.c.d` as a natural. -/
def ipv4Num (a b c d : ℕ) : ℕ := ((a * 256 + b) * 256 + c) * 256 + d

/-- The IPv6 address with the given leading groups and zeros after them, as a natural. -/
def ipv6Num (groups : List ℕ) : ℕ :=
  groups.foldl (fun n g => n * 65536 + g) 0 * 65536 ^ (8 - groups.length)

/-- The IPv4 blocks the bytes of `privateNetworks` hold, in its order. -/
def encodedV4Blocks : List CIDRBlock :=
  [⟨ipv4Num 10 0 0 0, 8⟩, ⟨ipv4Num 172 16 0 0, 12⟩, ⟨ipv4Num 192 168 0 0, 16⟩,
    ⟨ipv4Num 127 0 0 0, 8⟩, ⟨ipv4Num 0 0 0 0, 8⟩, ⟨ipv4Num 169 254 0 0, 16⟩,
    ⟨ipv4Num 192 0 0 0, 24⟩, ⟨ipv4Num 192 0 2 0, 24⟩, ⟨ipv4Num 192 51 100 0, 24⟩,
    ⟨ipv4Num 203 0 113 0, 24⟩, ⟨ipv4Num 192 88 99 0, 24⟩, ⟨ipv4Num 192 18 0 0, 15⟩,
    ⟨ipv4Num 224 0 0 0, 4⟩, ⟨ipv4Num 240 0 0 0, 4⟩, ⟨ipv4Num 255 255 255 255, 32⟩,
    ⟨ipv4Num 100 64 0 0, 10⟩]

/-- The special-purpose IPv4 blocks the comments of `privateNetworks` and their RFCs name. -/
def reservedV4Blocks : List CIDRBlock :=
  [⟨ipv4Num 10 0 0 0, 8⟩, ⟨ipv4Num 172 16 0 0, 12⟩, ⟨ipv4Num 192 168 0 0, 16⟩,
    ⟨ipv4Num 127 0 0 0, 8⟩, ⟨ipv4Num 0 0 0 0, 8⟩, ⟨ipv4Num 169 254 0 0, 16⟩,
    ⟨ipv4Num 192 0 0 0, 24⟩, ⟨ipv4Num 192 0 2 0, 24⟩, ⟨ipv4Num 198 51 100 0, 24⟩,
    ⟨ipv4Num 203 0 113 0, 24⟩, ⟨ipv4Num 192 88 99 0, 24⟩, ⟨ipv4Num 198 18 0 0, 15⟩,
    ⟨ipv4Num 224 0 0 0, 4⟩, ⟨ipv4Num 240 0 0 0, 4⟩, ⟨ipv4Num 255 255 255 255, 32⟩,
    ⟨ipv4Num 100 64 0 0, 10⟩]

/-- The IPv4-mapped block `::ffff:0:0/96`. -/
def mappedBlock : CIDRBlock := ⟨ipv6Num [0, 0, 0, 0, 0, 0xffff], 96⟩

/-- The IPv6 blocks the strings of `privateV6Networks` name, in its order. -/
def listedV6Blocks : List CIDRBlock :=
  [⟨0, 128⟩, ⟨1, 128⟩, mappedBlock, ⟨ipv6Num [0x100], 64⟩, ⟨ipv6Num [0x2001], 23⟩,
    ⟨ipv6Num [0x2001, 2], 48⟩, ⟨ipv6Num [0x2001, 0xdb8], 32⟩, ⟨ipv6Num [0x2001], 32⟩,
    ⟨ipv6Num [0xfc00], 7⟩, ⟨ipv6Num [0xfe80], 10⟩, ⟨ipv6Num [0xff00], 8⟩,
    ⟨ipv6Num [0x2002], 16⟩]

theorem privateNetworks_eq : privateNetworks = encodedV4Blocks.map (·.toIPNet 4) := by
  decide

theorem privateV6Networks_eq : privateV6Networks = listedV6Blocks.map (·.toIPNet 16) := by
  decide +kernel

/-- The IPv4 table blocks what its bytes say, on an address in either form. -/
theorem isPrivateV4_iff {x y : NetIP} (hx : to4 x = some y) :
    isPrivateV4 x = true ↔ ∃ b ∈ encodedV4Blocks, InPrefix 32 b.net b.len (bytesToNat y) := by
  have hblocks : ∀ b ∈ encodedV4Blocks, b.net < 2 ^ 32 ∧ b.len ≤ 32 := by decide
  rw [isPrivateV4, privateNetworks_eq, List.any_map, List.any_eq_true]
  apply exists_congr
  intro b
  apply and_congr_right
  intro hb
  exact contains_toIPNet_four (hblocks b hb).1 (hblocks b hb).2 hx

/-- On an address that is not IPv4-mapped, each network of the IPv6 table is its block. -/
theorem contains_listed_of_not_mapped {b : CIDRBlock} (hb : b ∈ listedV6Blocks) {x : NetIP}
    (hx16 : x.length = 16) (hx : to4 x = none) :
    (b.toIPNet 16).contains x = true ↔ InPrefix 128 b.net b.len (bytesToNat x) := by
  by_cases hmapped : b = mappedBlock
  · have hn4 : to4 (natToBytes 16 mappedBlock.net) = some [0, 0, 0, 0] := by decide
    have hnet : mappedBlock.net / 2 ^ 32 = 0xffff := by decide
    have hnot : ¬ bytesToNat x / 2 ^ 32 = 0xffff := by
      rw [← to4_isSome_iff hx16, hx]
      exact Bool.false_ne_true
    subst hmapped
    rw [CIDRBlock.toIPNet, contains_mapped hn4 (by decide), hx, Option.getD_none, hx16]
    simp only [InPrefix, show mappedBlock.len = 96 from rfl, hnet, hnot]
    simp
  · have hother : ∀ b ∈ listedV6Blocks, b ≠ mappedBlock →
        b.net < 2 ^ 128 ∧ b.len ≤ 128 ∧ to4 (natToBytes 16 b.net) = none := by decide
    obtain ⟨hnet, hlen, hn4⟩ := hother b hb hmapped
    exact contains_toIPNet_sixteen hnet hlen hn4 hx16 hx

/-- The IPv6 table blocks exactly the twelve blocks its strings name. -/
theorem isPrivateV6_iff {x : NetIP} (hx16 : x.length = 16) :
    isPrivateV6 x = true ↔ ∃ b ∈ listedV6Blocks, InPrefix 128 b.net b.len (bytesToNat x) := by
  rw [isPrivateV6, privateV6Networks_eq, List.any_map, List.any_eq_true]
  cases hx : to4 x with
  | none =>
    apply exists_congr
    intro b
    apply and_congr_right
    intro hb
    exact contains_listed_of_not_mapped hb hx16 hx
  | some y =>
    have hmem : mappedBlock ∈ listedV6Blocks := by decide
    have hn4 : to4 (natToBytes 16 mappedBlock.net) = some [0, 0, 0, 0] := by decide
    have hdrop : (cidrMaskBytes 16 96).drop 12 = cidrMaskBytes 4 0 := by decide
    have hvalue : bytesToNat x / 2 ^ 32 = 0xffff := by
      rw [← to4_isSome_iff hx16, hx]
      rfl
    refine ⟨fun _ => ⟨mappedBlock, hmem, ?_⟩, fun _ => ⟨mappedBlock, hmem, ?_⟩⟩
    · show bytesToNat x / 2 ^ (128 - 96) = mappedBlock.net / 2 ^ (128 - 96)
      rw [hvalue]
      decide
    · show (mappedBlock.toIPNet 16).contains x = true
      rw [CIDRBlock.toIPNet, contains_mapped hn4 (by decide), hx, Option.getD_some,
        length_of_to4 hx, show mappedBlock.len = 96 from rfl, hdrop, maskedEq_cidrMaskBytes_zero]
      rfl

theorem loopback_is_private : isPrivateV6 (List.replicate 15 0 ++ [1]) = true :=
  (isPrivateV6_iff (by decide)).mpr ⟨⟨1, 128⟩, by decide, by decide⟩

/-! ## LookupHost -/

/-- `dns.TypeA`. -/
def typeA : UInt16 := 1

/-- `dns.TypeAAAA`. -/
def typeAAAA : UInt16 := 28

/-- `dns.RcodeSuccess`. -/
def rcodeSuccess : ℕ := 0

/-- The data of a resource record: the address of an A or AAAA record, or another record. -/
inductive RRData where
  | a (ip : NetIP)
  | aaaa (ip : NetIP)
  | other
  deriving DecidableEq, Repr

/-- A resource record: the type in its header and its data. -/
structure RR where
  rrtype : UInt16
  data : RRData
  deriving DecidableEq, Repr

/-- A DNS response: its code and its answer section. -/
structure Msg where
  rcode : ℕ
  answer : List RR
  deriving DecidableEq, Repr

/-- `DNSError`: the query type, the name, the network error, and the response code (`-1` after
a network error). -/
structure DNSError where
  recordType : UInt16
  hostname : String
  underlying : Option String
  rCode : ℤ
  deriving DecidableEq, Repr

/-- `DNSResolverImpl`. `exchangeOne` is the DNS exchange, retries included: a response, or the
network error. -/
structure DNSResolverImpl where
  allowRestrictedAddresses : Bool
  exchangeOne : String → UInt16 → Except String Msg

/-- `lookupIP`: the answer section of a successful response. -/
def lookupIP (r : DNSResolverImpl) (hostname : String) (ipType : UInt16) :
    Except DNSError (List RR) :=
  match r.exchangeOne hostname ipType with
  | .error err => .error ⟨ipType, hostname, some err, -1⟩
  | .ok resp =>
    if resp.rcode ≠ rcodeSuccess then .error ⟨ipType, hostname, none, resp.rcode⟩
    else .ok resp.answer

/-- The records of a lookup; nil after an error. -/
def recordsOf : Except DNSError (List RR) → List RR
  | .ok records => records
  | .error _ => []

/-- What one answer to the A query adds to the addresses of `LookupHost`. -/
def aAddress (r : DNSResolverImpl) (answer : RR) : Option NetIP :=
  if answer.rrtype = typeA then
    match answer.data with
    | .a ip =>
      if (to4 ip).isSome ∧ (!isPrivateV4 ip || r.allowRestrictedAddresses) then some ip else none
    | _ => none
  else none

/-- What one answer to the AAAA query adds to the addresses of `LookupHost`. -/
def aaaaAddress (r : DNSResolverImpl) (answer : RR) : Option NetIP :=
  if answer.rrtype = typeAAAA then
    match answer.data with
    | .aaaa ip =>
      if (to16 ip).isSome ∧ (!isPrivateV6 ip || r.allowRestrictedAddresses) then some ip else none
    | _ => none
  else none

/-- `LookupHost`: both queries run, an error only when both fail, and then the addresses of the
A answers followed by those of the AAAA answers. -/
def lookupHost (r : DNSResolverImpl) (hostname : String) : Except DNSError (List NetIP) :=
  let resA := lookupIP r hostname typeA
  let resAAAA := lookupIP r hostname typeAAAA
  match resA, resAAAA with
  | .error errA, .error _ => .error errA
  | _, _ =>
    .ok ((recordsOf resA).filterMap (aAddress r) ++ (recordsOf resAAAA).filterMap (aaaaAddress r))

/-- Without restricted addresses, an A answer's address is kept exactly when it is an IPv4
address outside the blocks of the table. -/
theorem aAddress_eq_some {r : DNSResolverImpl} (hr : r.allowRestrictedAddresses = false)
    {x y : NetIP} (hx : to4 x = some y) :
    aAddress r ⟨typeA, .a x⟩ = some x ↔ ¬ ∃ b ∈ encodedV4Blocks, InPrefix 32 b.net b.len (bytesToNat y) := by
  rw [← isPrivateV4_iff hx]
  simp [aAddress, hx, hr]

/-- An A answer of a successful A query reaches the result of `LookupHost` when its address is
kept. -/
theorem mem_lookupHost_of_a {r : DNSResolverImpl} {hostname : String} {resp : Msg}
    (hA : r.exchangeOne hostname typeA = .ok resp) (hcode : resp.rcode = rcodeSuccess)
    {answer : RR} (hmem : answer ∈ resp.answer) {x : NetIP} (hx : aAddress r answer = some x) :
    ∃ addrs, lookupHost r hostname = .ok addrs ∧ x ∈ addrs := by
  have hlookup : lookupIP r hostname typeA = .ok resp.answer := by
    simp [lookupIP, hA, hcode]
  refine ⟨resp.answer.filterMap (aAddress r) ++
      (recordsOf (lookupIP r hostname typeAAAA)).filterMap (aaaaAddress r), ?_, ?_⟩
  · simp only [lookupHost, hlookup, recordsOf]
  · exact List.mem_append_left _ (List.mem_filterMap.mpr ⟨answer, hmem, hx⟩)

/-- The reserved blocks `198.51.100.0/24` and `198.18.0.0/15` meet no block of the table. -/
theorem not_encoded_of_test_net {v : ℕ}
    (hv : InPrefix 32 (ipv4Num 198 51 100 0) 24 v ∨ InPrefix 32 (ipv4Num 198 18 0 0) 15 v) :
    ¬ ∃ b ∈ encodedV4Blocks, InPrefix 32 b.net b.len v := by
  rintro ⟨b, hb, hin⟩
  simp only [encodedV4Blocks, List.mem_cons, List.not_mem_nil, or_false] at hb
  simp only [InPrefix, ipv4Num] at hv
  rcases hb with rfl | rfl | rfl | rfl | rfl | rfl | rfl | rfl | rfl | rfl | rfl | rfl | rfl |
    rfl | rfl | rfl <;>
  · simp only [InPrefix, ipv4Num] at hin
    omega

/-- Every A answer in the reserved blocks `198.51.100.0/24` or `198.18.0.0/15` comes back from
`LookupHost`, though it is not allowed restricted addresses. -/
theorem lookupHost_admits_test_net (r : DNSResolverImpl) (hr : r.allowRestrictedAddresses = false)
    (hostname : String) (resp : Msg) (hA : r.exchangeOne hostname typeA = .ok resp)
    (hcode : resp.rcode = rcodeSuccess) (x : NetIP) (hx : x.length = 4)
    (hrange : InPrefix 32 (ipv4Num 198 51 100 0) 24 (bytesToNat x) ∨
      InPrefix 32 (ipv4Num 198 18 0 0) 15 (bytesToNat x))
    (hmem : ⟨typeA, .a x⟩ ∈ resp.answer) :
    (∃ b ∈ reservedV4Blocks, InPrefix 32 b.net b.len (bytesToNat x)) ∧
      ∃ addrs, lookupHost r hostname = .ok addrs ∧ x ∈ addrs := by
  constructor
  · rcases hrange with h | h
    · exact ⟨⟨ipv4Num 198 51 100 0, 24⟩, by decide, h⟩
    · exact ⟨⟨ipv4Num 198 18 0 0, 15⟩, by decide, h⟩
  · have hkept : aAddress r ⟨typeA, .a x⟩ = some x :=
      (aAddress_eq_some hr (to4_of_length_four hx)).mpr (not_encoded_of_test_net hrange)
    exact mem_lookupHost_of_a hA hcode hmem hkept

/-- A resolver whose A query answers one TEST-NET-2 address. -/
def testNetResolver : DNSResolverImpl where
  allowRestrictedAddresses := false
  exchangeOne _ qtype :=
    .ok ⟨rcodeSuccess, if qtype = typeA then [⟨typeA, .a [198, 51, 100, 7]⟩] else []⟩

theorem test_net_address_returned :
    (∃ b ∈ reservedV4Blocks, InPrefix 32 b.net b.len (bytesToNat [198, 51, 100, 7])) ∧
      ∃ addrs, lookupHost testNetResolver "example.net" = .ok addrs ∧ [198, 51, 100, 7] ∈ addrs :=
  lookupHost_admits_test_net testNetResolver rfl "example.net" _ rfl rfl [198, 51, 100, 7] rfl
    (Or.inl (by decide)) (by decide)

end Boulder.BDNS
