import VectorFetch.Url.Domain.Table

/-!
# Directions of writing

A domain name with a label that is written from right to left has to be readable in one
way only.

* `Direction`, `direction`: what a character tells about the direction of its label.
* `isRightToLeft`: whether a label holds a character of such a script.
* `isOrderly`: the rule for the labels of such a name.
-/

namespace VectorFetch.Url.Domain

/-- What a character tells about the direction of its label. -/
inductive Direction where
  | left
  | right
  | arabicLetter
  | arabicNumber
  | number
  /-- A sign, a mark, or what else follows its neighbours. -/
  | neutral
  /-- A mark that belongs to the character before it. -/
  | mark
  deriving DecidableEq, Repr

/-- The characters that do not run from left to right: those from right to left as `r`,
Arabic letters and numbers as `a` and `n`, other numbers as `e`, marks as `m`, and the
neutral ones by further letters. -/
def directionLines : List String := [
    "21-22:o 23-25:t 26-2a:o 2b:s 2c:c 2d:s 2e-2f:c 30-39:e 3a:c 3b-40:o 5b-60:o 7b-7e:o a1:o",
    "a2-a5:t a6-ae:o b0-b1:t b6-d7:o f7:o 2b9-2ba:o 2c2-2cf:o 2d2-2ed:o 2ef-2ff:o 300-36f:m 375:o",
    "3f6:o 483-489:m 58a-58e:o 58f:t 591-5bd:m 5be:r 5bf:m 5c0:r 5c1-5c2:m 5c3:r 5c4-5c5:m 5c6:r",
    "5c7:m 5d0-5f4:r 606-607:o 608:a 609-60a:t 60b:a 60c:c 60d:a 60e-60f:o 610-61a:m 61b-64a:a",
    "64b-65f:m 660-669:n 66a:t 66b-66c:n 66d-66f:a 670:m 671-6d5:a 6d6-6dc:m 6de:o 6df-6e4:m",
    "6e5-6e6:a 6e7-6e8:m 6e9:o 6ea-6ed:m 6ee-6ef:a 6f0-6f9:e 6fa-710:a 711:m 712-72f:a 730-74a:m",
    "74d-7a5:a 7a6-7b0:m 7b1:a 7c0-7ea:r 7eb-7f3:m 7f4-7f5:r 7f6-7f9:o 7fa:r 7fd:m 7fe-815:r",
    "816-819:m 81a:r 81b-823:m 824:r 825-827:m 828:r 829-82d:m 830-858:r 859-85b:m 85e:r",
    "860-88e:a 898-89f:m 8a0-8c9:a 8ca-902:m 93a:m 93c:m 941-948:m 94d:m 951-957:m 962-963:m",
    "981:m 9bc:m 9c1-9c4:m 9cd:m 9e2-9e3:m 9f2-9f3:t 9fb:t 9fe-a02:m a3c:m a41-a51:m a70-a71:m",
    "a75:m a81-a82:m abc:m ac1-ac8:m acd:m ae2-ae3:m af1:t afa-b01:m b3c:m b3f:m b41-b44:m",
    "b4d-b56:m b62-b63:m b82:m bc0:m bcd:m bf3-bf8:o bf9:t bfa:o c00:m c04:m c3c:m c3e-c40:m",
    "c46-c56:m c62-c63:m c78-c7e:o c81:m cbc:m ccc-ccd:m ce2-ce3:m d00-d01:m d3b-d3c:m d41-d44:m",
    "d4d:m d62-d63:m d81:m dca:m dd2-dd6:m e31:m e34-e3a:m e3f:t e47-e4e:m eb1:m eb4-ebc:m",
    "ec8-ece:m f18-f19:m f35:m f37:m f39:m f3a-f3d:o f71-f7e:m f80-f84:m f86-f87:m f8d-fbc:m",
    "fc6:m 102d-1030:m 1032-1037:m 1039-103a:m 103d-103e:m 1058-1059:m 105e-1060:m 1071-1074:m",
    "1082:m 1085-1086:m 108d:m 109d:m 135d-135f:m 1390-1399:o 1400:o 169b-169c:o 1712-1714:m",
    "1732-1733:m 1752-1753:m 1772-1773:m 17b7-17bd:m 17c6:m 17c9-17d3:m 17db:t 17dd:m 17f0-180a:o",
    "1885-1886:m 18a9:m 1920-1922:m 1927-1928:m 1932:m 1939-193b:m 1940-1945:o 19de-19ff:o",
    "1a17-1a18:m 1a1b:m 1a56:m 1a58-1a60:m 1a62:m 1a65-1a6c:m 1a73-1a7f:m 1ab0-1ace:m 1b00-1b03:m",
    "1b34:m 1b36-1b3a:m 1b3c:m 1b42:m 1b6b-1b73:m 1b80-1b81:m 1ba2-1ba5:m 1ba8-1ba9:m 1bab-1bad:m",
    "1be6:m 1be8-1be9:m 1bed:m 1bef-1bf1:m 1c2c-1c33:m 1c36-1c37:m 1cd0-1cd2:m 1cd4-1ce0:m",
    "1ce2-1ce8:m 1ced:m 1cf4:m 1cf8-1cf9:m 1dc0-1dff:m 200c-200d:b 2010-2027:o 2030-2032:t",
    "2035-2043:o 2044:c 2045-205e:o 20a0-20c0:t 20d0-20f0:m 2104-2129:o 212e:t 213a-214d:o",
    "218a-2211:o 2212:s 2213:t 2214-2335:o 237b-2394:o 2396-2426:o 2440-26ab:o 26ad-27ff:o",
    "2900-2b95:o 2b97-2bff:o 2ce5-2cea:o 2cef-2cf1:m 2cf9-2cff:o 2d7f:m 2de0-2dff:m 2e00-3004:o",
    "3008-3020:o 302a-302d:m 3030:o 3037:o 303d-303f:o 3099-309a:m 30a0:o 30fb:o 31c0-31e3:o",
    "4dc0-4dff:o a490-a4c6:o a60d-a60f:o a66f-a672:m a673:o a674-a67d:m a67e-a67f:o a69e-a69f:m",
    "a6f0-a6f1:m a700-a721:o a788:o a802:m a806:m a80b:m a825-a826:m a828-a82b:o a82c:m",
    "a838-a839:t a874-a877:o a8c4-a8c5:m a8e0-a8f1:m a8ff:m a926-a92d:m a947-a951:m a980-a982:m",
    "a9b3:m a9b6-a9b9:m a9bc-a9bd:m a9e5:m aa29-aa2e:m aa31-aa32:m aa35-aa36:m aa43:m aa4c:m",
    "aa7c:m aab0:m aab2-aab4:m aab7-aab8:m aabe-aabf:m aac1:m aaec-aaed:m aaf6:m ab6a-ab6b:o",
    "abe5:m abe8:m abed:m fb1e:m fbb2-fbc2:a fd3e-fd4f:o fdcf-fdff:o fe20-fe2f:m fe45-fe46:o",
    "fe73:a 10101:o 10140-1018c:o 10190-101a0:o 101fd:m 102e0:m 102e1-102fb:e 10376-1037a:m",
    "10800-1091b:r 1091f:o 10920-1093f:r 10980-10a00:r 10a01-10a0f:m 10a10-10a35:r 10a38-10a3f:m",
    "10a40-10ae4:r 10ae5-10ae6:m 10aeb-10b35:r 10b39-10b3f:o 10b40-10cff:r 10d00-10d23:a",
    "10d24-10d27:m 10d30-10d39:n 10e60-10e7e:n 10e80-10ea9:r 10eab-10eac:m 10ead-10eb1:r",
    "10efd-10eff:m 10f00-10f27:r 10f30-10f45:a 10f46-10f50:m 10f51-10f59:a 10f70-10f81:r",
    "10f82-10f85:m 10f86-10ff6:r 11001:m 11038-11046:m 11052-11065:o 11070:m 11073-11074:m",
    "1107f-11081:m 110b3-110b6:m 110b9-110ba:m 110c2:m 11100-11102:m 11127-1112b:m 1112d-11134:m",
    "11173:m 11180-11181:m 111b6-111be:m 111c9-111cc:m 111cf:m 1122f-11231:m 11234:m",
    "11236-11237:m 1123e:m 11241:m 112df:m 112e3-112ea:m 11300-11301:m 1133b-1133c:m 11340:m",
    "11366-11374:m 11438-1143f:m 11442-11444:m 11446:m 1145e:m 114b3-114b8:m 114ba:m",
    "114bf-114c0:m 114c2-114c3:m 115b2-115b5:m 115bc-115bd:m 115bf-115c0:m 115dc-115dd:m",
    "11633-1163a:m 1163d:m 1163f-11640:m 11660-1166c:o 116ab:m 116ad:m 116b0-116b5:m 116b7:m",
    "1171d-1171f:m 11722-11725:m 11727-1172b:m 1182f-11837:m 11839-1183a:m 1193b-1193c:m 1193e:m",
    "11943:m 119d4-119db:m 119e0:m 11a01-11a06:m 11a09-11a0a:m 11a33-11a38:m 11a3b-11a3e:m",
    "11a47:m 11a51-11a56:m 11a59-11a5b:m 11a8a-11a96:m 11a98-11a99:m 11c30-11c3d:m 11c92-11ca7:m",
    "11caa-11cb0:m 11cb2-11cb3:m 11cb5-11cb6:m 11d31-11d45:m 11d47:m 11d90-11d91:m 11d95:m",
    "11d97:m 11ef3-11ef4:m 11f00-11f01:m 11f36-11f3a:m 11f40:m 11f42:m 11fd5-11fdc:o",
    "11fdd-11fe0:t 11fe1-11ff1:o 13440:m 13447-13455:m 16af0-16af4:m 16b30-16b36:m 16f4f:m",
    "16f8f-16f92:m 16fe2:o 16fe4:m 1bc9d-1bc9e:m 1cf00-1cf46:m 1d167-1d169:m 1d17b-1d182:m",
    "1d185-1d18b:m 1d1aa-1d1ad:m 1d1e9-1d241:o 1d242-1d244:m 1d245:o 1d300-1d356:o 1da00-1da36:m",
    "1da3b-1da6c:m 1da75:m 1da84:m 1da9b-1daaf:m 1e000-1e08f:m 1e130-1e136:m 1e2ae:m",
    "1e2ec-1e2ef:m 1e2ff:t 1e4ec-1e4ef:m 1e800-1e8cf:r 1e8d0-1e8d6:m 1e922-1e943:r 1e944-1e94a:m",
    "1e94b-1e95f:r 1ec71-1ed3d:a 1eef0-1f12f:o 1f16d-1f16f:o 1f1ad:o 1f260-1f6d7:o 1f6dc-1f776:o",
    "1f77b-1f8b1:o 1f900-1fa53:o 1fa60-1fa88:o 1fa90-1fabd:o 1fabf-1fac5:o 1face-1fadb:o",
    "1fae0-1fae8:o 1faf0-1fbca:o"
  ]

/-- The characters that do not run from left to right. -/
def directions : Array Entry := Table.entries directionLines

/-- What a character tells about the direction of its label. -/
def direction (c : Char) : Direction :=
  match (Table.find? directions c).map fun e => e.note with
  | none => .left
  | some [':', 'r'] => .right
  | some [':', 'a'] => .arabicLetter
  | some [':', 'n'] => .arabicNumber
  | some [':', 'e'] => .number
  | some [':', 'm'] => .mark
  | some _ => .neutral

/-- Whether a label holds a character that runs from right to left. The scripts of such characters
begin with Hebrew. -/
def isRightToLeft (label : List Char) : Bool :=
  label.any fun c => 0x590 ≤ c.toNat
    && [.right, .arabicLetter, .arabicNumber].contains (direction c)

/-- The last character of a label, marks behind it aside. -/
def lastDirection? (label : List Char) : Option Direction :=
  (label.reverse.dropWhile fun c => direction c = .mark).head?.map direction

/-- Whether a label can be read in one way only: it runs in the direction of its first
character and ends in a letter or a number of that direction, and it does not hold two
kinds of numbers. -/
def isOrderly (label : List Char) : Bool :=
  match label with
  | [] => true
  | c :: _ =>
    let all := label.map direction
    let last := lastDirection? label
    match direction c with
    | .left =>
      (all.all fun d => [.left, .number, .neutral, .mark].contains d)
        && [some .left, some .number].contains last
    | .right | .arabicLetter =>
      (all.all fun d => d ≠ .left)
        && [some .right, some .arabicLetter, some .number, some .arabicNumber].contains last
        && !(all.contains .number && all.contains .arabicNumber)
    | _ => false

end VectorFetch.Url.Domain
