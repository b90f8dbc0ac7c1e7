/-
Characters that are made of others.

A composite is a letter together with a mark that may follow it, as one character: `é` is `e`
and an acute accent.  The table has the composites that a domain name may hold (canonical
decompositions, in the Unicode Character Database), written `a=x_y` in hexadecimal code
points.  The syllables of Hangul are composites too; what they are made of is computed.

Main definitions:
* `partsOf` — what a character is made of in the end;
* `whole?` — the character that is made of two others.
-/
import Strongbox.Text.Ranges
namespace Strongbox.Url.Domain

/-- The composites of the table.  One whose first part is a composite itself stands before
that one. -/
def compositeLines : List String :=
  ["1d6=fc_304 1d8=fc_301 1da=fc_30c 1dc=fc_300 1df=e4_304 1e1=227_304 1ed=1eb_304 1fb=e5_301",
   "22b=f6_304 22d=f5_304 231=22f_304 390=3ca_301 3b0=3cb_301 ccb=cca_cd5 ddd=ddc_dca",
   "1e09=e7_301 1e15=113_300 1e17=113_301 1e1d=229_306 1e2f=ef_301 1e39=1e37_304 1e4d=f5_301",
   "1e4f=f5_308 1e51=14d_300 1e53=14d_301 1e5d=1e5b_304 1e65=15b_307 1e67=161_307 1e69=1e63_307",
   "1e79=169_301 1e7b=16b_308 1ea5=e2_301 1ea7=e2_300 1ea9=e2_309 1eab=e2_303 1ead=1ea1_302",
   "1eaf=103_301 1eb1=103_300 1eb3=103_309 1eb5=103_303 1eb7=1ea1_306 1ebf=ea_301 1ec1=ea_300",
   "1ec3=ea_309 1ec5=ea_303 1ec7=1eb9_302 1ed1=f4_301 1ed3=f4_300 1ed5=f4_309 1ed7=f4_303",
   "1ed9=1ecd_302 1edb=1a1_301 1edd=1a1_300 1edf=1a1_309 1ee1=1a1_303 1ee3=1a1_323 1ee9=1b0_301",
   "1eeb=1b0_300 1eed=1b0_309 1eef=1b0_303 1ef1=1b0_323 1f02=1f00_300 1f03=1f01_300",
   "1f04=1f00_301 1f05=1f01_301 1f06=1f00_342 1f07=1f01_342 1f12=1f10_300 1f13=1f11_300",
   "1f14=1f10_301 1f15=1f11_301 1f22=1f20_300 1f23=1f21_300 1f24=1f20_301 1f25=1f21_301",
   "1f26=1f20_342 1f27=1f21_342 1f32=1f30_300 1f33=1f31_300 1f34=1f30_301 1f35=1f31_301",
   "1f36=1f30_342 1f37=1f31_342 1f42=1f40_300 1f43=1f41_300 1f44=1f40_301 1f45=1f41_301",
   "1f52=1f50_300 1f53=1f51_300 1f54=1f50_301 1f55=1f51_301 1f56=1f50_342 1f57=1f51_342",
   "1f62=1f60_300 1f63=1f61_300 1f64=1f60_301 1f65=1f61_301 1f66=1f60_342 1f67=1f61_342",
   "1fd2=3ca_300 1fd7=3ca_342 1fe2=3cb_300 1fe7=3cb_342 16126=16121_1611f 16127=16122_1611f",
   "16128=16121_16120 16d6a=16d69_16d67 e0=61_300 e1=61_301 e2=61_302 e3=61_303 e4=61_308",
   "e5=61_30a e7=63_327 e8=65_300 e9=65_301 ea=65_302 eb=65_308 ec=69_300 ed=69_301 ee=69_302",
   "ef=69_308 f1=6e_303 f2=6f_300 f3=6f_301 f4=6f_302 f5=6f_303 f6=6f_308 f9=75_300 fa=75_301",
   "fb=75_302 fc=75_308 fd=79_301 ff=79_308 101=61_304 103=61_306 105=61_328 107=63_301",
   "109=63_302 10b=63_307 10d=63_30c 10f=64_30c 113=65_304 115=65_306 117=65_307 119=65_328",
   "11b=65_30c 11d=67_302 11f=67_306 121=67_307 123=67_327 125=68_302 129=69_303 12b=69_304",
   "12d=69_306 12f=69_328 135=6a_302 137=6b_327 13a=6c_301 13c=6c_327 13e=6c_30c 144=6e_301",
   "146=6e_327 148=6e_30c 14d=6f_304 14f=6f_306 151=6f_30b 155=72_301 157=72_327 159=72_30c",
   "15b=73_301 15d=73_302 15f=73_327 161=73_30c 163=74_327 165=74_30c 169=75_303 16b=75_304",
   "16d=75_306 16f=75_30a 171=75_30b 173=75_328 175=77_302 177=79_302 17a=7a_301 17c=7a_307",
   "17e=7a_30c 1a1=6f_31b 1b0=75_31b 1ce=61_30c 1d0=69_30c 1d2=6f_30c 1d4=75_30c 1e3=e6_304",
   "1e7=67_30c 1e9=6b_30c 1eb=6f_328 1ef=292_30c 1f0=6a_30c 1f5=67_301 1f9=6e_300 1fd=e6_301",
   "1ff=f8_301 201=61_30f 203=61_311 205=65_30f 207=65_311 209=69_30f 20b=69_311 20d=6f_30f",
   "20f=6f_311 211=72_30f 213=72_311 215=75_30f 217=75_311 219=73_326 21b=74_326 21f=68_30c",
   "227=61_307 229=65_327 22f=6f_307 233=79_304 3ac=3b1_301 3ad=3b5_301 3ae=3b7_301 3af=3b9_301",
   "3ca=3b9_308 3cb=3c5_308 3cc=3bf_301 3cd=3c5_301 3ce=3c9_301 439=438_306 450=435_300",
   "451=435_308 453=433_301 457=456_308 45c=43a_301 45d=438_300 45e=443_306 477=475_30f",
   "4c2=436_306 4d1=430_306 4d3=430_308 4d7=435_306 4db=4d9_308 4dd=436_308 4df=437_308",
   "4e3=438_304 4e5=438_308 4e7=43e_308 4eb=4e9_308 4ed=44d_308 4ef=443_304 4f1=443_308",
   "4f3=443_30b 4f5=447_308 4f9=44b_308 622=627_653 623=627_654 624=648_654 625=627_655",
   "626=64a_654 6c0=6d5_654 6c2=6c1_654 6d3=6d2_654 929=928_93c 931=930_93c 934=933_93c",
   "9cb=9c7_9be 9cc=9c7_9d7 b48=b47_b56 b4b=b47_b3e b4c=b47_b57 b94=b92_bd7 bca=bc6_bbe",
   "bcb=bc7_bbe bcc=bc6_bd7 c48=c46_c56 cc0=cbf_cd5 cc7=cc6_cd5 cc8=cc6_cd6 cca=cc6_cc2",
   "d4a=d46_d3e d4b=d47_d3e d4c=d46_d57 dda=dd9_dca ddc=dd9_dcf dde=dd9_ddf 1026=1025_102e",
   "1b06=1b05_1b35 1b08=1b07_1b35 1b0a=1b09_1b35 1b0c=1b0b_1b35 1b0e=1b0d_1b35 1b12=1b11_1b35",
   "1b3b=1b3a_1b35 1b3d=1b3c_1b35 1b40=1b3e_1b35 1b41=1b3f_1b35 1b43=1b42_1b35 1e01=61_325",
   "1e03=62_307 1e05=62_323 1e07=62_331 1e0b=64_307 1e0d=64_323 1e0f=64_331 1e11=64_327",
   "1e13=64_32d 1e19=65_32d 1e1b=65_330 1e1f=66_307 1e21=67_304 1e23=68_307 1e25=68_323",
   "1e27=68_308 1e29=68_327 1e2b=68_32e 1e2d=69_330 1e31=6b_301 1e33=6b_323 1e35=6b_331",
   "1e37=6c_323 1e3b=6c_331 1e3d=6c_32d 1e3f=6d_301 1e41=6d_307 1e43=6d_323 1e45=6e_307",
   "1e47=6e_323 1e49=6e_331 1e4b=6e_32d 1e55=70_301 1e57=70_307 1e59=72_307 1e5b=72_323",
   "1e5f=72_331 1e61=73_307 1e63=73_323 1e6b=74_307 1e6d=74_323 1e6f=74_331 1e71=74_32d",
   "1e73=75_324 1e75=75_330 1e77=75_32d 1e7d=76_303 1e7f=76_323 1e81=77_300 1e83=77_301",
   "1e85=77_308 1e87=77_307 1e89=77_323 1e8b=78_307 1e8d=78_308 1e8f=79_307 1e91=7a_302",
   "1e93=7a_323 1e95=7a_331 1e96=68_331 1e97=74_308 1e98=77_30a 1e99=79_30a 1ea1=61_323",
   "1ea3=61_309 1eb9=65_323 1ebb=65_309 1ebd=65_303 1ec9=69_309 1ecb=69_323 1ecd=6f_323",
   "1ecf=6f_309 1ee5=75_323 1ee7=75_309 1ef3=79_300 1ef5=79_323 1ef7=79_309 1ef9=79_303",
   "1f00=3b1_313 1f01=3b1_314 1f10=3b5_313 1f11=3b5_314 1f20=3b7_313 1f21=3b7_314 1f30=3b9_313",
   "1f31=3b9_314 1f40=3bf_313 1f41=3bf_314 1f50=3c5_313 1f51=3c5_314 1f60=3c9_313 1f61=3c9_314",
   "1f70=3b1_300 1f72=3b5_300 1f74=3b7_300 1f76=3b9_300 1f78=3bf_300 1f7a=3c5_300 1f7c=3c9_300",
   "1fb0=3b1_306 1fb1=3b1_304 1fb6=3b1_342 1fc6=3b7_342 1fd0=3b9_306 1fd1=3b9_304 1fd6=3b9_342",
   "1fe0=3c5_306 1fe1=3c5_304 1fe4=3c1_313 1fe5=3c1_314 1fe6=3c5_342 1ff6=3c9_342 219a=2190_338",
   "219b=2192_338 21ae=2194_338 21cd=21d0_338 21ce=21d4_338 21cf=21d2_338 2204=2203_338",
   "2209=2208_338 220c=220b_338 2224=2223_338 2226=2225_338 2241=223c_338 2244=2243_338",
   "2247=2245_338 2249=2248_338 2260=3d_338 2262=2261_338 226d=224d_338 226e=3c_338 226f=3e_338",
   "2270=2264_338 2271=2265_338 2274=2272_338 2275=2273_338 2278=2276_338 2279=2277_338",
   "2280=227a_338 2281=227b_338 2284=2282_338 2285=2283_338 2288=2286_338 2289=2287_338",
   "22ac=22a2_338 22ad=22a8_338 22ae=22a9_338 22af=22ab_338 22e0=227c_338 22e1=227d_338",
   "22e2=2291_338 22e3=2292_338 22ea=22b2_338 22eb=22b3_338 22ec=22b4_338 22ed=22b5_338",
   "304c=304b_3099 304e=304d_3099 3050=304f_3099 3052=3051_3099 3054=3053_3099 3056=3055_3099",
   "3058=3057_3099 305a=3059_3099 305c=305b_3099 305e=305d_3099 3060=305f_3099 3062=3061_3099",
   "3065=3064_3099 3067=3066_3099 3069=3068_3099 3070=306f_3099 3071=306f_309a 3073=3072_3099",
   "3074=3072_309a 3076=3075_3099 3077=3075_309a 3079=3078_3099 307a=3078_309a 307c=307b_3099",
   "307d=307b_309a 3094=3046_3099 309e=309d_3099 30ac=30ab_3099 30ae=30ad_3099 30b0=30af_3099",
   "30b2=30b1_3099 30b4=30b3_3099 30b6=30b5_3099 30b8=30b7_3099 30ba=30b9_3099 30bc=30bb_3099",
   "30be=30bd_3099 30c0=30bf_3099 30c2=30c1_3099 30c5=30c4_3099 30c7=30c6_3099 30c9=30c8_3099",
   "30d0=30cf_3099 30d1=30cf_309a 30d3=30d2_3099 30d4=30d2_309a 30d6=30d5_3099 30d7=30d5_309a",
   "30d9=30d8_3099 30da=30d8_309a 30dc=30db_3099 30dd=30db_309a 30f4=30a6_3099 30f7=30ef_3099",
   "30f8=30f0_3099 30f9=30f1_3099 30fa=30f2_3099 30fe=30fd_3099 105c9=105d2_307 105e4=105da_307",
   "1109a=11099_110ba 1109c=1109b_110ba 110ab=110a5_110ba 1112e=11131_11127 1112f=11132_11127",
   "1134b=11347_1133e 1134c=11347_11357 11383=11382_113c9 11385=11384_113bb 1138e=1138b_113c2",
   "11391=11390_113c9 113c5=113c2_113c2 113c7=113c2_113b8 113c8=113c2_113c9 114bb=114b9_114ba",
   "114bc=114b9_114b0 114be=114b9_114bd 115ba=115b8_115af 115bb=115b9_115af 11938=11935_11930",
   "16121=1611e_1611e 16122=1611e_16129 16123=1611e_1611f 16124=16129_1611f 16125=1611e_16120",
   "16d68=16d67_16d67 16d69=16d63_16d67"]

/-- A character that is made of two others. -/
structure Composite where
  whole : Char
  first : Char
  second : Char

def Composite.ofToken? (token : List Char) : Option Composite := do
  let (left, right) ← Text.splitOnce? ['='] token
  let (a, b) ← Text.splitOnce? ['_'] right
  let whole ← Numeral.read? 16 left
  let first ← Numeral.read? 16 a
  let second ← Numeral.read? 16 b
  some ⟨Char.ofNat whole, Char.ofNat first, Char.ofNat second⟩

def composites : List Composite :=
  compositeLines.flatMap fun l => (Text.pieces ' ' l.toList).filterMap Composite.ofToken?

/-- The first syllable of Hangul.  There is one for each of 19 leading consonants, 21 vowels, and
27 trailing consonants or none, in this order. -/
def firstSyllable : Nat := 0xAC00

/-- The first leading consonant of Hangul. -/
def firstLead : Nat := 0x1100

def firstVowel : Nat := 0x1161

/-- The place of no trailing consonant: the first one comes after it. -/
def noTrail : Nat := 0x11A7

/-- Is the code point that of a syllable? -/
def isSyllable (n : Nat) : Bool := firstSyllable ≤ n && n < firstSyllable + 19 * 21 * 28

/-- The consonants and the vowel of a syllable. -/
def syllableParts (n : Nat) : List Nat :=
  let s := n - firstSyllable
  let pair := [firstLead + s / (21 * 28), firstVowel + s / 28 % 21]
  if s % 28 = 0 then pair else pair ++ [noTrail + s % 28]

/-- The syllable of a leading consonant and a vowel, or of a syllable without a trailing
consonant and one. -/
def syllable? (a b : Nat) : Option Nat :=
  if firstLead ≤ a ∧ a < firstLead + 19 ∧ firstVowel ≤ b ∧ b < firstVowel + 21 then
    some (firstSyllable + ((a - firstLead) * 21 + (b - firstVowel)) * 28)
  else if isSyllable a ∧ (a - firstSyllable) % 28 = 0 ∧ noTrail < b ∧ b < noTrail + 28 then
    some (a + (b - noTrail))
  else none

/-- What a character is made of, by a table in which the parts of a composite stand below it. -/
def partsBy : List Composite → Char → List Char
  | [], c => [c]
  | e :: below, c =>
    if e.whole = c then partsBy below e.first ++ [e.second] else partsBy below c

/-- What a character is made of in the end: itself if it is no composite.  No ASCII character
is one. -/
def partsOf (c : Char) : List Char :=
  if c.toNat < 128 then [c]
  else if isSyllable c.toNat then (syllableParts c.toNat).map Char.ofNat
  else partsBy composites c

/-- The character that is made of two others.  The second is never one below the first mark. -/
def whole? (a b : Char) : Option Char :=
  if b.toNat < 0x300 then none
  else
    match syllable? a.toNat b.toNat with
    | some n => some (Char.ofNat n)
    | none => (composites.find? fun e => e.first == a && e.second == b).map Composite.whole

end Strongbox.Url.Domain
