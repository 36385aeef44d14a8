import Unbundle.Text.Basic

/-!
# Packed texts

A long text needs few characters if much of it can be foretold. Each sign of the text is a row of choices, and each
choice divides an interval in two: a part is the larger the more likely it is. How likely it is, is told from what
was chosen in the same surroundings before. There are several kinds of surroundings, and each of them counts as
much as it was right before. The packed form of the text is a number in the part of its last choice, written in
digits from the highest on.
-/

namespace Unbundle.Text

/-! ### Surroundings -/

/-- What a sign does in a text of entries: it is a letter of a word, it divides words, or it begins an entry that
shares so many words with the entry before. -/
inductive SignRole where
  | letter
  | divider
  | mark (shared : Nat)

/-- What is before a sign: all signs, and in its entry the letters since the last divider, both from the last on,
the words before these, the words of the entry before, and the mark of its own. -/
structure Surroundings where
  signs : List Nat
  word : List Nat
  words : List (List Nat)
  above : List (List Nat)
  mark : Nat

namespace Surroundings

def add (sign : Nat) : SignRole → Surroundings → Surroundings
  | .letter, s => { s with signs := sign :: s.signs, word := sign :: s.word }
  | .divider, s => { s with signs := sign :: s.signs, word := [], words := s.words ++ [s.word.reverse] }
  | .mark shared, s =>
    let entry := if s.word.isEmpty then s.words else s.words ++ [s.word.reverse]
    { signs := sign :: s.signs, word := [], words := entry.take shared,
      above := if entry.isEmpty then s.above else entry, mark := sign }

def extend (key : UInt32) (n : Nat) : UInt32 := key * 0x3D4D51CB + n.toUInt32 + 1

def keys (s : Surroundings) : List UInt32 :=
  let length := s.word.length
  let last := s.signs.headD 0
  let facing := (s.above[s.words.length]?).getD []
  let letter (i : Nat) := (facing[i]?).getD 0
  let kinds := [s.word, [letter length, letter (length + 1), letter (length - 1), last],
    length :: s.mark :: s.words.getLastD [], s.signs.take 5, s.signs.take 2 ++ s.words.headD [],
    [letter length, if letter (length - 1) = last then 1 else 0, s.above.length - s.words.length],
    s.word ++ 0 :: facing]
  kinds.zipIdx.map fun (numbers, kind) => numbers.foldl extend kind.toUInt32

def position (s : Surroundings) : Nat := min s.words.length 7 * 8 + min s.word.length 7

end Surroundings

/-! ### Chances -/

/-- The logarithm of a number, in 64ths, on straight lines between powers of two. -/
def logarithm (n : Nat) : Nat := 64 * n.log2 + (64 * n) >>> n.log2 - 64

/-- The logarithms of what chances in 4096ths are against their opposites. -/
def stretched : Array Int := (Array.range 4096).map fun n => logarithm (16 * n) - logarithm (65536 - 16 * n)

/-- The chance in 65536ths that has a logarithm. -/
def squash (x : Int) : Nat :=
  let n := min x.natAbs 900
  let odds := ((64 + n % 64).toUInt64 <<< (n / 64).toUInt64).toNat
  let chance := 65536 * odds / (odds + 64)
  if x < 0 then 65536 - chance else chance

/-- What is known of a choice: how likely it is, in 65536ths, how often it was seen, up to a bound, and its weight
for the choice. It is kept in a cell, with a check of the key of its surroundings. -/
structure Guess where
  cell : Nat
  check : Nat
  chance : Nat
  seen : Nat
  weight : Int

namespace Guess

def find (guesses : Array Nat) (key : UInt32) : Guess :=
  let cell := (key &&& (guesses.size - 1).toUInt32).toNat
  let check := (key >>> 22).toNat + 1
  let kept := guesses.getD cell 0
  if kept / 0x200000 = check then
    let chance := kept / 32 % 65536
    ⟨cell, check, chance, kept % 32, stretched.getD (chance / 16) 0⟩
  else ⟨cell, check, 32768, 0, 0⟩

def learn (yes : Bool) (guesses : Array Nat) (g : Guess) : Array Nat :=
  let step := 5 * g.seen + 6
  let chance := if yes then g.chance + (65536 - g.chance) * 5 / step else g.chance - g.chance * 5 / step
  guesses.setIfInBounds g.cell ((g.check * 65536 + chance) * 32 + min (g.seen + 1) 16)

end Guess

/-! ### Reading -/

/-- The characters that are digits of a packed text, in order. -/
def packingDigits : List Char :=
  (List.range 127).filterMap fun n =>
    let c := Char.ofNat n
    if n ≤ 32 ∨ c = '"' ∨ c = '\\' ∨ c = '\x7b' ∨ c = '\x7d' then none else some c

def packingBase : Nat := packingDigits.length

/-- Where the reading of a packed text stands: the digits to come, the place of the number in the present
interval and the width of that, the guesses, and rows of how much each kind of surroundings counts. -/
structure Unpacking where
  digits : List Nat
  place : Nat
  width : Nat
  guesses : Array Nat
  rows : Array Int

namespace Unpacking

def takeDigit (u : Unpacking) : Unpacking :=
  { u with
    digits := u.digits.tail
    place := u.place * packingBase + u.digits.headD 0
    width := u.width * packingBase }

def start (digits : List Nat) (size : Nat) : Unpacking :=
  (List.range 6).foldl (fun u _ => u.takeDigit) ⟨digits, 0, 1, Array.replicate size 0, Array.replicate 2240 14000⟩

/-- Takes a digit if the interval has become narrow. -/
def widen (u : Unpacking) : Unpacking := if u.width < 0x80000000 then u.takeDigit else u

def weigh (rows : Array Int) : Nat → List Guess → Int → Int
  | _, [], sum => sum / 65536
  | i, g :: gs, sum => weigh rows (i + 1) gs (sum + rows.getD i 0 * g.weight)

def adjust (error : Int) : Nat → List Guess → Array Int → Array Int
  | _, [], rows => rows
  | i, g :: gs, rows => adjust error (i + 1) gs (rows.setIfInBounds i (rows.getD i 0 + g.weight * error / 4096))

/-- Counts the kinds of surroundings anew in a row whose guess was so far off. -/
def correct (row : Nat) (error : Int) (known : List Guess) (rows : Array Int) : Array Int :=
  if error.natAbs < 1024 then rows else adjust error row known rows

/-- The next choice after those that were made for a sign, and the reading after it. Two rows count: one for the
choices before, the other for the position. -/
def choose (keys : List UInt32) (position made : Nat) : Unpacking → Bool × Unpacking
  | ⟨digits, place, width, guesses, rows⟩ =>
    let known := keys.map fun key => Guess.find guesses (Surroundings.extend (Surroundings.extend key made) 0)
    let row := 7 * made
    let row' := 7 * (256 + position)
    let sum := weigh rows row known 0
    let sum' := weigh rows row' known 0
    let cut := width / 65536 * squash ((sum + sum') / 2)
    let yes := place < cut
    let right : Int := if yes then 65536 else 0
    let u : Unpacking :=
      { digits
        place := if yes then place else place - cut
        width := if yes then cut else width - cut
        guesses := known.foldl (Guess.learn yes) guesses
        rows := correct row' (right - squash sum') known (correct row (right - squash sum) known rows) }
    (yes, u.widen.widen.widen)

/-- The next sign, by the levels of a tree: `n` is the place among the nodes of a level, where the signs come first.
The choices that were made are the digits of a number in base two. -/
def next (keys : List UInt32) (position : Nat) : List (List Char) → Nat → Nat → Unpacking → Char × Unpacking
  | [], _, _, u => (' ', u)
  | level :: levels, n, made, u =>
    match level[n]? with
    | some c => (c, u)
    | none =>
      let (yes, u) := u.choose keys position made
      next keys position levels (2 * (n - level.length) + yes.toNat) (2 * made + yes.toNat) u

def signs (levels : List (List Char)) (role : Char → SignRole) : Nat → Surroundings → Unpacking → List Nat
  | 0, s, _ => s.signs
  | length + 1, s, u =>
    let (c, u) := u.next s.keys s.position levels 0 1
    signs levels role length (s.add c.toNat (role c)) u

end Unpacking

/-- The text of so many signs that is packed in digits. Other characters are passed over. -/
def unpack (levels : List String) (role : Char → SignRole) (length : Nat) (packed : String) : List Char :=
  let digits := packed.toList.filterMap fun c => packingDigits.idxOf? c
  let start := Unpacking.start digits (1 <<< (length.log2 + 4))
  ((start.signs (levels.map String.toList) role length ⟨[], [], [], [], 0⟩).map Char.ofNat).reverse

/-! ### Tables over code points -/

def hexValue? (c : Char) : Option Nat :=
  if '0' ≤ c ∧ c ≤ '9' then some (c.toNat - '0'.toNat)
  else if 'a' ≤ c ∧ c ≤ 'f' then some (c.toNat - 'a'.toNat + 10)
  else if 'A' ≤ c ∧ c ≤ 'F' then some (c.toNat - 'A'.toNat + 10)
  else none

def ofHex (cs : List Char) : Nat :=
  cs.foldl (fun n c => match hexValue? c with
    | some d => n * 16 + d
    | none => n) 0

def hexBytes : List Char → List UInt8
  | a :: b :: rest => (ofHex [a, b]).toUInt8 :: hexBytes rest
  | _ => []

/-- The entries of a table whose text has so many signs and is packed. -/
def tableEntries (length : Nat) (packed : String) : List (List Char) :=
  splitOn ',' (unpack ["", "", "", ",1", " -23456", "0789>acf", "bde", "/="]
    (fun c => if c = ',' then .mark 0 else if c.isAlphanum then .letter else .divider) length packed)

/-- A map from short lists of code points to lists of code points, in ascending order of the keys. -/
abbrev Images := Array (List Nat × List Nat)

namespace Images

def advance (image : List Nat) (n : Nat) : List Nat := image.dropLast ++ (image.getLast?.map (· + n)).toList

/-- Reads entries after the key `last` that go on in the steps that the mark between gap and image stands for. -/
def readEntries? (mark : Char) (step move last : Nat) (entry : List Char) : Option (List (List Nat × List Nat)) :=
  match splitOn mark entry with
  | [key, image] =>
    let image := (words image).map ofHex
    match splitOn '-' key with
    | [gap, more] =>
      some ((List.range (ofHex more / step + 1)).map fun i =>
        ([last + ofHex gap + step * i], advance image (move * i)))
    | _ => some [([last + ofHex key], image)]
  | _ => none

def readEntries (last : Nat) (entry : List Char) : List (List Nat × List Nat) :=
  (readEntries? '>' 1 1 last entry <|> readEntries? '=' 1 0 last entry <|> readEntries? '/' 2 2 last entry).getD
    [([last + 1], (words entry).map ofHex)]

def ofEntries (entries : List (List Char)) : Images :=
  entries.foldl (fun m entry =>
    m ++ readEntries ((m.back?.bind fun entry => entry.1.head?).getD 0) entry) #[]

def before : List Nat → List Nat → Bool
  | [], [] => false
  | [], _ :: _ => true
  | _ :: _, [] => false
  | a :: as, b :: bs => a < b || (a == b && before as bs)

/-- The image of `key` among the entries from `lo` up to, not including, `hi`. -/
def search (m : Images) (key : List Nat) (lo hi : Nat) : Option (List Nat) :=
  if lo < hi then
    match m[(lo + hi) / 2]? with
    | none => none
    | some (k, image) =>
      if before key k then search m key lo ((lo + hi) / 2)
      else if before k key then search m key ((lo + hi) / 2 + 1) hi
      else some image
  else none
termination_by hi - lo

def get? (m : Images) (key : List Nat) : Option (List Nat) :=
  m.search key 0 m.size

end Images

/-! ## Kinds of characters -/

/-- The kinds that the table tells apart, in the order of their bits. -/
inductive Kind where
  /-- Neither a control, an unassigned or private code point, nor a separator other than the space. -/
  | printable
  /-- A letter, or numeric in any way. -/
  | alphanumeric
  /-- The property `XID_Continue`. -/
  | identifierPart
  /-- The property `XID_Start`. -/
  | identifierStart
  /-- Passed over in the search for the neighbours of a sigma. -/
  | caseIgnorable
  /-- Has case and is not passed over. -/
  | cased
  /-- The decimal digits of a script are ten code points in a row, and sets of digits may follow each other. -/
  | decimal

structure Run where
  first : Nat
  last : Nat
  kinds : Nat

namespace Run

def has (run : Run) (k : Kind) : Bool := run.kinds.testBit k.ctorIdx

/-- Reads the runs, which begin after ASCII, from the entries of a table. -/
def ofEntries (entries : List (List Char)) : Array Run :=
  entries.foldl (fun runs entry =>
    let first := (runs.back?.map fun run => run.last + 1).getD 128
    match splitOn '-' entry with
    | [kinds, more] => runs.push ⟨first, first + ofHex more, ofHex kinds⟩
    | _ => runs.push ⟨first, first, ofHex entry⟩) #[]

def search (runs : Array Run) (n lo hi : Nat) : Option Run :=
  if lo < hi then
    match runs[(lo + hi) / 2]? with
    | none => none
    | some run =>
      if n < run.first then search runs n lo ((lo + hi) / 2)
      else if run.last < n then search runs n ((lo + hi) / 2 + 1) hi
      else some run
  else none
termination_by hi - lo

end Run

def kindRuns : Array Run := Run.ofEntries <| tableEntries 9634 "
=3/EmWCctmWY//6,YS]cUZ5V*dpFGEf+Q`YoF??5<Y>oMAP,<*bNXgex,+E1FQ_+?A~+,.46@N9!#8!q~ry:%y;d/#?d|b,nx1CDeowEw!Ev<7lHDLn?P62I%o+P<iq==H*9fU,aDy*KnboP^nSa^~34t,.ALY0Z0#[aY$(9esvDoKmqx2qO-GD3`Jj-5_-~PvJ/6J~JA;KZa)G^/%7/-HNYxM6cOwAe/$|:pY(,SKv5ATWL*Hm67<_P4/s8N.8%%*3GzR[]!VFX%'$mE04j+pM0!Qy`~'FPl`0QD|@6@Dz[`K,InX89gT<A@rfEhXE@GJ-i5ONS'm[C[|so?Q!m=1ko(W7peP,%~W%7:^;:$Gq_2|rL3O,<vm,^9s#E=mKOYh#AJzk:VQnKEuoxc0v3Q$iMzn&pdijci3.qM2'm2K1VyE/g4Kap5IjbO[~u5<Cn85?Va/~SNXNo~uln.[^>k=miI$@ME`+8
dz&Z'ZxO^r?>davWX|k!T>GIDnXM&@+(hY.g_j(HR/ETR@!lzWGX7N0C$FX-t.,zKS<b9q5$taDnb!&@G.g[DyP)U/[n4QiD4Y`s4A)0f=z`x6!9O9)H5RuPmJjsL+4?FsMRIJy#]aIT8Y3G$tUJ51]nw2m?goj83N0b#RM#8zP|+Quc=iK=)X6F1qdX?P4;Cb9V@G^Ti)8bM@uC>m<R*?~8'^WU,W9&tw9|JP4V'=AoyFar,4Vk`X]]l>ap>w953?r5-hh+3,yPD0dz!Z:5Uw$XYT?*LV[+U)<U;'fv?J7orb$*I</XcBt;c]UMRtL<c1.S]Ng@88k7;SW5#E!G2]zX?07_?9>0vIBQ;Kw);9txXg%l>)4q~W/wM#)f>`^y9M7c@B*(?hNGh0q*znGuJvX#>;OMiyi`,mH!]E@fAMQFGY-qMGg$HVGZsQ>]KnEPkwoVVC2.3hXZ.I5+|<O]>S9Ptk=_gXdO
A1~4ZIVfK<L$oRcz1Ym[5z@YWyJkUJ!;sAd~Hmw~a0-dx2a7=x4hxbcDG`ZtybRH?i3-9AVlNp.U-nFY+GDO~.=L'Jbjo69$&4l)o9?7aIp[~x*qTj@+*c8m*8P@~0i0waO*!KMU=H7c*`5JQcIfs<niq*keM+w!a(l6F9~Puqur-6,>qH6q|kVtU@SaiSd'LP*6&HL!r]$M/k(N`xJ(^PPV8sV<wk7xJJp66E9pCI?Nvwlo)Qw7+=lO4+;(8EV#g<*[HW3Cj&8c8ue0z]~*f&z/Aau0Lryt#037MBKmqFIF]rgV@uZ)i>7~CYXJ`.7:pDoDQkCL8F/Oc4Z!B]5m?-NuTa.TPbH%&S^cq;6<<EHc^jq9gv6nXRWG85,'aRvJ&mN%5%v9X(6%7|b<d@vZ*.pmqE;W?NINml+&DzOFSLEZG,6l1CniAOO2tC?pI-GgLzqKJp/w$>zR5j?s3ESp&u#5WA&e0l8?
K3JQ~d@Dz_<]IC_0YdA.stf#3Sov~I#BdMj<#:@TMnFLk7-*nDH]Q+Y&NuUTp8g!]B>(!C(,~U-wa`9FF6dt3PzE^yz*xQ;~Wgm`3-Cr4uf,4W|#Xa`/&3.OUd]pxz?R[%HW,4zL&spEcE?HTerO>G(Ih~=?BV1|>;&ufxdRQZd?YKki9eipN@f7qj;n(5#ywu!2,86jqe507G|~=mXx8,%9Wt5CO%D:SioTk[A5`xy:K'R,t58XtS9`S0RX6e5Zb$YuQa!]bHvL'g^k06`O,$oC8vx?V^p+/8Edauo].=JgQSM^ubC#gU)`E3Gu49o$5aYTOQV:EIUK:oybFEkTK,3$c4JYt,zRGC0__?OLfU|d]7)!]FuK3)@XO23l0')C7q@p.Q8[!m,?$^>TAW@5s>hMI::pb81T;Td~R.u*sdnqk+6R20p/g3LLTwkyzDr;!SwH&%V|J(JBg!1[p|%`MI7f+V3.(;[z
'b;+D.gQ]Tn)d)A-XPFa!YD284MlAFLA#Gl)58WQ<smdxVqBe?y)4cL=dRc<jvsb73aN@cOAVkXhAC]/dVQR-5`=[L#3<RV<:xU3k]aKiP,poFI&5xK<0oz9LC(2C_XPETa,I]!_%~(kvFtQw_[_VE<S<`^I&$`['1S)Dx9f<bs;a5ziCYlvLIbQt24R3kJS>wL1gNV*KC?[I:4Ff94AU;P>?JN.~SC,H%P0|;]1Pq]<S-[Bz3Ajb;Z?uO15=HpxU*Q]cH.L*<Jv(g(c(J6WV%^jc0Y?'f5nMg.1*Wo-42r7tvXHy:(N0aT,*kLGy.L~Lm*]>Rn+1JU;h[&GG2P9<9;EzlNF?!BJ/Sl=gc=@%0iM+>HJCpEDYPpbQ@JG<ztqMfq!gKllOgc#pqY%7(i1X!sGRB#q=:)bwegzY!2,uHW/L]+L~fdXQ,OfCGpVb'>='-H^([|7Bb+P/f5@w;$+cl2AyN'cMxCJ
|)0ppag~vWG8KY(I.gS0p<kuO5@Lx@5fl+XqVXweEQcWZl]UliX(~0BXUCg0mdkf*sY-fs8uRXbg]e:e$~NsBRPxy|.`,46^8k%M~^j[3MN=]2@,<X>vh_rLG0P?C#Y#.Xs(HM:w/ei^c6h6q]$iP$1e)=ZS-bzD|YpNyw|/f:Uu):nS$Zo:@QS2&dW'aLRcB5odr/x*lePLH6"

def runOf? (c : Char) : Option Run := Run.search kindRuns c.toNat 0 kindRuns.size

def Kind.holds (k : Kind) (c : Char) : Bool := (runOf? c).any (·.has k)

def isPrintable (c : Char) : Bool :=
  if c.toNat < 128 then 32 ≤ c.toNat && c.toNat < 127 else Kind.printable.holds c

/-! ### Words -/

def isAlphanumeric (c : Char) : Bool :=
  if c.toNat < 128 then c.isAlphanum else Kind.alphanumeric.holds c

/-- A word character is a letter, a numeric character of any kind, or the low line. -/
def isWord (c : Char) : Bool := c == '_' || isAlphanumeric c

/-- Whether a word begins or ends between `before` and `after`, the characters on the two sides. -/
def isWordEdge (before after : Option Char) : Bool :=
  before.any isWord != after.any isWord

/-! ### Identifiers -/

def isIdentifierStart (c : Char) : Bool :=
  if c.toNat < 128 then c.isAlpha || c == '_' else Kind.identifierStart.holds c

def isIdentifierPart (c : Char) : Bool :=
  if c.toNat < 128 then c.isAlphanum || c == '_' else Kind.identifierPart.holds c

def isIdentifier : List Char → Bool
  | [] => false
  | c :: cs => isIdentifierStart c && cs.all isIdentifierPart

/-! ### Digits -/

def digitValue? (c : Char) : Option Nat :=
  if c.toNat < 128 then
    if c.isDigit then some (c.toNat - '0'.toNat) else none
  else
    ((runOf? c).filter (·.has .decimal)).map fun run => (c.toNat - run.first) % 10

/-! ### Upper and lower case -/

def upperImages : Images := .ofEntries <| tableEntries 2329 "
&gKU5;Irw**IGV>;Q(~9H[HpQ)qQiUFf9#Q(/KrpZKp;DPFB6$Bqa538shELIeyU8w$$~G;W[lqR1k)mg+W$L1q)FoNda:Rb@3V;kfHK%Q<Pr`kh*';'pTQ@dorBHlbNBmxUTTvBtz5iS[GBKJ*x[T/5@SoPJE;`qKyY>,j'W0y+;.5j~,9;[TvoObOTqeIY<A78qq9B;kk.Gah[p]q2P)4+M.ubsdBKEA|uaRA?mB8XDHV(@E(D8Bc4g>bhqe67*^>STf^ZE9SFA3%edls+?Y[2i*P]2ej~1&JXgi*@]8v4Eo|A<@@X/oQVfo<e,u_DX!_rVy9E1rT$Gj^|(8,,/k<I^PNl$)zL6ME&TlXnGzy@4=V=(FXMX,H5)O'LfZ0~K<$'bQUb3Ag'WBMiw3[@y_?c_G01k0^F?qqJL)Ci-)yIm]?<-;z6B<3@UV`V10@ID(o!N;Ea!,tGla;sX(v0G'0x&pI=tu/n
Ns(w#y=e5H.Km;,fzrCxB4PS2H8gaVtPxgSt0QFaxXZB%lbDQK#S$s31ZWQt@Vm87^fj6^Ry+AX#_!XJ)0H|D5g:Dy6MisLj].wa%uw;Gqa-rrA$!&K4RcuOU17el$(]Oz'eR=/7:,;yCwT39WK?=R!Wy1sPMG5v<k@6h<0=UY[fu/)&ELxSo):w,!VkJ^8_aQY=E'`>T&1R;;rlV94Z:_UD#LiJJj^O23Re*]m5N&KnFD<9R!(1+Y5<><1Pl-N8y&6dPaL#VZTr2%%d$S*K:AUg#HNGrO*t:[!`ylIWDx:bDN`7][6q?vN&n7#SndzvbLhQ1ahrcvP#AUm61rUr4xg%wi3(Rb4nl$R)FO|=welux/MibGWc#1We/Q|FIX;$@9T^h/zp1+DtH;x.mU/[anLKVV5@hSLn*j~$V7R]d7Uq[Kd/Dg'!ch'zpn?Rvg$[#h2BL"

def lowerImages : Images := .ofEntries <| tableEntries 1340 "
+<[SB.yy:|)ez52WiW|%7]Y5zPvNV:|$.^Z)aB48%9;Ro!Y,)`W^[uTlFD^lt]t3GX$y'8X3r#^JqhD=f$)H~a2LuiP_IK2YfH*:oFb.#yz>BHE0JgvS2/vIaZ-dlVqW/oKx``=z2o/l=+F)k4i6VeQnXyI-aiCo^4?t5fP4s_n0#K=rip|Qe=mRBsB9e8+7ua8Lu_>N$^eqyIWc>l%=6&a>E'3s@kf&U8H[.-CM|/cBIWp*eOFoxbLeJ4gdg^B3i;Tmz0JfI-XMUIqxHh~T;>#fBSwS|1+wBZLJ+23%P40mfp[e1_M?=sS';l4$igQApj0e5X;)Chcjx:fzcqphZek3$^?+3luzz)9NovyFfwy~dzg7;f|7v,Rf^dVe]QutBioxd8C@Or2Fg<ll2&RfiO$rk~|)hdqP06'DMef6@;w)PPiFv,*'](<H~+a7lS4^I-&|m)?]S],at/$9~`R'@It<]wrj)L<P
hXHE5u]gq$]33Zf!tfPV2|&eRzp6iAZ>0r_h+!LUwlTgF>F&*zZ`!b58Q;$NY*[*qw-bT3jPf47>PF(RWX:b))$7[zuIEJR;:OctZ0V,fDd;=QO4%XcnhVcmh@#t:5t]+PrRnj6Z?vB^/C&8c|D;G;Ukr1pra+Vm(,WR6*@=I;#!T_xk#'B4O&?dHU.2*$d?jZ0u7"

def imageOf (m : Images) (c : Char) : List Char :=
  match m.get? [c.toNat] with
  | some ns => ns.map Char.ofNat
  | none => [c]

def upperChar (c : Char) : List Char :=
  if c.toNat < 128 then [c.toUpper] else imageOf upperImages c

def lowerChar (c : Char) : List Char :=
  if c.toNat < 128 then [c.toLower] else imageOf lowerImages c

def upper (cs : List Char) : List Char := cs.flatMap upperChar

def isCaseIgnorable (c : Char) : Bool :=
  if c.toNat < 128 then "'.:^`".toList.contains c else Kind.caseIgnorable.holds c

def isCased (c : Char) : Bool := if c.toNat < 128 then c.isAlpha else Kind.cased.holds c

/-- Whether the first character that is not passed over has case. -/
def meetsCased (cs : List Char) : Bool := (cs.find? fun c => !isCaseIgnorable c).any isCased

/-- A text in lower case, after the characters of `before`, the last of them first. -/
def lowerAfter (before : List Char) : List Char → List Char
  | [] => []
  | c :: cs =>
    let image :=
      if c = 'Σ' then [if meetsCased before && !meetsCased cs then 'ς' else 'σ'] else lowerChar c
    image ++ lowerAfter (c :: before) cs

def lower (cs : List Char) : List Char := lowerAfter [] cs

def uppercase (s : String) : String := String.ofList (upper s.toList)

def lowercase (s : String) : String := String.ofList (lower s.toList)

/-! ### Quoted texts -/

def hexDigits : (width n : Nat) → List Char
  | 0, _ => []
  | width + 1, n => hexDigits width (n / 16) ++ [Nat.digitChar (n % 16)]

def escapeFor (quote c : Char) : List Char :=
  if c = quote ∨ c = '\\' then ['\\', c]
  else if c = '\n' then ['\\', 'n']
  else if c = '\r' then ['\\', 'r']
  else if c = '\t' then ['\\', 't']
  else if isPrintable c then [c]
  else if c.toNat < 0x100 then '\\' :: 'x' :: hexDigits 2 c.toNat
  else if c.toNat < 0x10000 then '\\' :: 'u' :: hexDigits 4 c.toNat
  else '\\' :: 'U' :: hexDigits 8 c.toNat

def quoteOf (cs : List Char) : Char :=
  if cs.contains '\'' && !cs.contains '"' then '"' else '\''

def quoted (cs : List Char) : List Char :=
  let quote := quoteOf cs
  quote :: (cs.flatMap (escapeFor quote) ++ [quote])

def quote (s : String) : String := String.ofList (quoted s.toList)

/-- Bytes between quotes: printable ASCII as itself, the others in hexadecimal. -/
def quotedBytes (bs : List UInt8) : List Char :=
  let cs := bs.map fun b => Char.ofNat b.toNat
  let quote := quoteOf cs
  'b' :: quote :: (cs.flatMap fun c =>
    if c.toNat < 127 then escapeFor quote c else '\\' :: 'x' :: hexDigits 2 c.toNat) ++ [quote]

/-! ## Compatibility composition -/

/-- The identifier characters that a pair composes to, each with its pair, the Hangul syllables apart. -/
def composites : Images := .ofEntries <| tableEntries 7100 "
+<V#EPU1rd*csOTV*6[k1Vq(x2$J~]zS-?ZEDnRQclN7dz]wp<8X@-if8a@sU<.bv(&kPKk5w|ubn9EzZ7'BG+zzB[^=>tW!h?hFO.#n*P=x*(XcM#nA=OEm;J*L|pfae=<ALuU4xQl0U|njJ<#c2w0]jXb;;b7%.CCXFJ8TJ<$ya&Y%'N!Sx9p/enBg+wOP-|M6uZkJOtW-`RJ~Cb9Oc8Ry$*/*n55)eJ;cUtJwp4kj)j1G2'?^-0a0JVT!=5>!;Dkz5'WN4y/49%sA~&A|TnYiT2e(@@Y1/ZAViFlY,^*:1.'9V5-yp)[58w;xMJvXx#.vWLfc~/c=.jD6:mCP*#$2zDw4fL*81RCsp#%aS<&YfUKR:|$3:FV|F87>PRw|ylV;;Yl)&ZSUDaW'h-JvtLK^xoVublevs(i&hsB~7C)qL*J7bZJqR)'VS/|*jxG*kAOX)#m!;Zj|v_kmkXW0oHpTM1O9F/X?
bC@yX/s(.s6g#^:?fhLx6M0T1S#C2Gr)p3!I+p1Mk7g3izVHst#ciuK^AU`(Ef^o83|RQ9t&lCkXmLIUV~*r_a>!1!Hda4E7somL[FxN!m$8:sP?^m(ba^#X0PPoT%OKSi0yjYwY->E_,BYX`n*Iala4Dn5hz#Q7L*0P67>CZz!GXe~17'(A[5e<&6!Xd9EHFWl'%oL&3tjAuH`dp6s[|J*t~v_&Nigxo3..1M9V7GxIk@,ReDLZ#&i+0t8HcooN#+j'!Z^Y6n5*q_MPtO-gxsN66<Cu5EZ<nJXfVIKm8Iv9|ik8FD3d<XU$l5zx8m~x0o&CP:L@ag;x&]07VjXohIq:kb7EJ4?L0#yUR+[|;V:(NV4t+w%Z[t0Erp]d5fU9f|'F<:r+YxrPIJJ:W]e2(`2m,0XV1VG4d*1XeYd5F`!uFraYsf;Ks[KaCt.kE?iPhgID/B^qXP`!;?F:~b7h,lI1;AXqlv~O
2R&b$?Ln5t)QNrMysxjGv/[)yQfq'`zZ.lDE)#rpWjB$ECPESF%R_P=aHrhTFTrRHg|yKl1dDDo(dR=3:ut9#9POy6&rl1r&NfiK3B:3-ilEAw*&DJpu,2!C>J!A^r@`HdW7+TM/_nlF0.lG%qrn?2wXP?-igfO<v'N1!G~/wWj*)![dIeEg?=W5uo~<pG_.bbhs7(!<i.-Xoo26@(;4LnU24ukh(3E0Lp<H$UrA8b<85/i)^XY@&B82.JFm10.n5[fEb0I|qu&59(c+zcE(*bN?w`=(3@$9IGt7ZkzT7c2Xsg'A8:a+%-t4)%~/Ma1#YVR?$F#H9M>[c)?d3E&iL&csU)1d$T'BTc?2u/xUyM)e%<<L_TLzytMkw70=/L%koHr/e%KwWrDs5Vu<&v@L6numPzw1vMOnA>O>MJ00TKjbZYf>3C_,7'wwvx3nr~Uitw6|u^Y3Cm!N0*AB)$R/Af$V;aw'ly.O
iK_k5FUl=iCTm>c0mN(#=6bH`E1&sPwS>!jA'g9/FE53z7HYW5q>tWV~@4@<+F*BMr1_'N$B[NShr2qft(_:d/n#"

/-- Full compatibility decompositions of the other identifier characters. -/
def replacements : Images := .ofEntries <| tableEntries 13778 "
-[_nG!Vo<CH!RIm8*BQf=8|~0-xJ:17.PMZt^;o7vre$xd_*Ha3+Vjr<c&r@nAptzj~]15J$PN%@>Y~G%syFf<rTX4=YSeNz*6r|b8CL`FD[#Sa'PkHp=/x4*&O<h6ke)iV@7KtEUkS]QnT-5Z-@#~04J&bI5,~4F]enU;HQ1p@`DRwRd&hZEq=dpTO!=/)nc*0!#D7LiVFDdDHmFZMt^yZK!<yu=cA44uh>-HM9S;IVy+.)xXoUU?pnFV`rXuW,eDHBvEfRswc+_:XsJ::;!l@SpZx?N-9wB5(SX[N$>|E+nK.a<I0mqYC^%:En`d#S>'mpC9G6PeQneszfECwGD_UP%6.rh>IBlV[BGFC;Pac7;oGp5'K^t/B[VL<r<#G9&E,Uli|,ff?bqZU&P`c()awQQgq;tiJe$K@@!eZ32VVk8<^zh`YuU_.5dqD;19|lCNv|p[(a;Y38R7e,|rm^X/|Dvf2/B>:c
K<-bZ|+[F9J=N<`x[LwZ5*8or1B=T$(7@ptKJf!Bw!7_%tNKc0F.ewqR51L-*gLNoyd^iD[%RjE!p(yR9)y<8jJ3yg!m~Q(pkV4B_A?1<@Q?:md]jB:,0Dh[+S31[Bv=8z~SdZ4j)ZB+[A.7oH0i/;<K36i^'oqjeD/G?7OO*zn`|<m?y#hCu%Z$=G'VVyrV0WIoal+4UJ_?9q6W7XHXtFroDNr2AS#L;)3hZ.,Pr1G^nRL('z5(exAFBhcjsb'~%eZ7pM+YC1@GCvr+IZq-,Q[vOvA5Thp25t'itC6@_><t&a?x^Vb0s8C#y^^>RPM^1K3]P?kSNqd64MMrXXDw#<MZpE!X_]~3j*j)w58N?bVwX:YH&TZYrjqnfd3@?7a'nptP5m|vf_RJ~`<r]Qy.'BMS5OwiM]?C&z0r)GBIdu+]/!v%q,gB(y-#_.f;(+'P!^OoVl($4oz#r-M!cU:H<to#z4^G]gED
=2YXEn@:%ezW!`US%IXaikNn>yY:VRgA=<zcV&;12k6/2,McPY,)NpaBJeyu3Lbtnfz&ss]:[&N-&7@5Z*88s>JQ~=<)%#tBRBu4NS0K:4VLig/q#4z[glpMCOWO/D26ZrPXeU-gM's8KggGo/?P=yx/X3A(=)^DU>5Z@~Dk'F$h`pC:x+V1+uYLO5(CR=kW/eVj.s9ItKnPAXd;nJ!X-lqyD1woV8,evl2Q)owm#z1w)C23lGn/ImPkZQK2slI$X8l*p?U?|.4hF[.eGkZazu'lsY-ym<Ua.01||W/CxIr#!p7x*A2uu>!eT&07?,hWM)a#wE2.Dy5*gL-9|O9c(TF=TE`qJ's[WMfrl6].m/Gnib_O'lf*`[@p6vv&5'g&9[cmkjf:K+o!>ygKPZ4='EZ8j8*^-nU_.^usvl69;bdOU4xkQ?_nN>k^U<.qTI/Ty*=8Y[p<S9lZS=_U=eYgIoQEC=Nw`(X*
/0If=$4DR8Gs]#erNGS3Ju|TQ.|;u;B8L_qpTn+bZp!gq6(_E[pnPk*a|rsSd60of%N~1xN?!2lX8yUC<%;pg<Z4T!//`E|zm+sZN?Go%#OL_wGI:$_][dh3>sh#V]WyS3Q:c~<Y#|z,ucMvpz@E6')rjI'y8Vo-5)kfM~JWsRJ-J(n&]Gcr^n5?>3!P)6~nz-U$a2H3YOucjQ'M$@*Y<F)xC:IK&~'5<rNE!6|-S#'%f+_U''@md^|3aqB',*b%P=Bv.KKv'/P:jkdp`FHxuvctRSE.lmS2n<.&yf?J@R2@NRNPSq5.QzrrRi*Mb?^nX&NZdsZPm]:[:?<ZdK9HrSlx.<u.EvLM0VBaGHdQpl?ndK[0RQm3Wq[8A_xzRmMl8=71uc<d??^S]8Mckb3zb?L!U[^wm0cLCP6L<:ppB5.;rYE1j.tgg[MlOVEJ#Qe^M__wUC;_A5Y.B]PjWla5ix@CpUa(bzm+
K2&@ki#fJd'G8jIJ273r?9J!CD`[=XU1yB.g%(qhzA_Gc2`N|Q~*n4i8-HU<_VyL])sSh,p?+#<%Kv-LcZaY$h.6;~bsZl?V(%y1rpYON*@V_V<X0e&k7N6w,Mv+I@sw127XyrMGtF~o5@b%U.VZM!h@,CI%k%]/1hEA[(9JF+uO0y61NS`v]|QR3v=|-d2>J[c7Td`bF`juA@c@9>6q(2utuvy~1OSkf0aW[@S;cPBe7Uy]#MAs5Aj)V4mX5XC3Jd@UIaW_-9bHJSl^g3h0&ys&LJv4gjW*Tkj>PJI~]pYI3(AO`B)Ol5is.lU%0R$Om1z]q]?8~YPrZ%`;t?_pTy@3aemO4o)Bn`$ng9Era#<cM-8jbfx6h=$.~$'.WbyFJmu,thG57'(VY^Ou$t^?.e`ot3jnpTGZOK`3p)&kLEV0rwBhhwC13HOxz&skuEekp$G`=P'R&aP3uS+f0>uhazqf-i)W+MN6
O$&tBULxCE)-6tzb9?hl[6>4[_+<?+Zxu_qNLXI^:s>f/6kxsG<$OoT6JD#DzaiJ'qIDvTxq1Or%|<Lo,sc~gqm0d=5!DFm9IsAoP~4eh[T*U7#zhtu]e`t+EL.OM0$(uAy'A$mRU^7_`dzs'n+QKgH0n/3#d6_YPj5eKsUd$JU76.nGh,!V[5P1,t`SN^LMb+@*5>9W=d%H|5&w?p'*g58sSp`Ar(EF<~f6B|;EeE*mlFv'KA^_zSflbhUFc~;/yh#d&E%P|84Io!+:UuZ2+'7vcUsw`9FtO8EQ`#Aojt&lpJrJCrTc8|:T/MN2n1sC6PG,Y`~m?yjG/kR5G]XdAMc`c@7*?OIcHDj|%^oayT1UJi|>UnOTfIxli88e~h_bT7sYH7,Gr4?L(>xak[puAEe[NEj$=.dRy.xC.8pv2ebX'Wtkc$p:czl);;6D]q8l+7Tvb(K6i<hceV1G|5?wTdV]Js<Di[/y
yN$2Lp_)8L!MLR*Pcwb>d3%7]m*&g)8`=GPjiQC_PY790_3R:<3RF,OLt[KNZ^`o>Rl(D`EDp**O*d9d&Vk1A1qYnwhH&OV-U<^8b_whTx8d`Q*6RHLIHuC-^8Z2e^%[8L-kgt&-'1nN!z?~+e'_I*MC83$eJgh&A~/@JqR>k8h.7aA;D2E~veo:BA~S.+z`f8NU'rC4.1/NaL*oH=yViE%C'Ch[W~F@C`$L0Qgm.q~nS?edItzDA|~RFXT16lPeTxPb+=@a+JKDf7OUM&w#PCs(~Zr!5?^YCizPz((Gh0W#yeln+>wee;6qtoV=O>%9/*Ur5Yx&sbI2[/w@[<Mq2v@`NJtWDy?YkiDzjc|`$~7|AHC!;7)W6pY:5Mx2@R.V%0Z%Ldv>533?7.Wj@HR4;$9.YPJ]tSgsQ>U+|8#Q`,A*qB<yQQ)U1GC-$l8|&cIu69K$&-o0>!]?m8u-86]gbFt|~^(j`+DA
A.`Ywzh&-~sGL$C0jm(yj>OP8^qvrE|-VfxEHYq(Rz|MVFfg`Exs=N-Or47`vN/C:=HRLl!&u(2F7K:OT=T(?aDh3N8^Cufbv~y-Xt>38HsrxO^G+~2dGCcu;/OLu='UXeJ8[Pj?#(NLic!.!eYbhnYgLuFv&df:k^uqF,r:Jo!]JrT@$U<2!W>pGZW@)`%,-Jej2T7G:R3I:g~w2Ezic!CkXfhXN(;)1-:gO>pd.F<`nx+Nfrmg@fTfTe:Bv/ZI|SZATBbw2#e>UhD~q|KI$9v/['uGlc>T5nNDNBzJe<5KmlJ#nkVn6IJO^k,I>Ih4fDrR]7]T~kT<xLJo'[ai(rr%|NP0]xJ(ndp6>K5.Gk&.Qx?YeoyKA7VM*1k>=>~U[*s+^UDT_A*h^S[QX^9j/>7`XII(eH+TI;%@-.|C3[7thC(I,Vh^6%VmsR[a~kwvuNI/+'8iN12+p@9%uu)auv?yF@SAajOU
|gjwm_UiwW-eTzW_f0EA>I7EP<]L6&SY<Fi2^h;S;+_2_ND`W!9F!kE@q9Hd?xieDGz4e37u<MJMSD_Ubb2SM.gj<gEYryD=!i.g[UZcq!yM96RbT)iiqAZ/Z2MJU#7b4uz7_m*NnpwRf6,znLTei=Tzg|Q6Gt_%j<@xv#plhBY|v*X6hdJ*Hc%HlP9.5.64O*x'?[,[vLW<C^1c0Rw!9$i>z$`?'GS`8U&BdHE=>~[rl7lnVMBzYRQI<^'%L$@&/K~JNLuhYD$5&pP,BT).h[zbKn]LlS8.l^5q']g[zR&e.aQ<!zCs|a:C>KldE)^U%%'9kH&DhLWBDB%ws+`ur*b#>I9+m&6=Z$,=-/&~n*al!anWlp7,fgwfst%ToldYdNR7D3cbsuSB9pzfjpuY@%*Jh$2VC|w:).vc!C.s-RH1Gd$AA%1U;Uq`)^esRd2fjkKM+O>=cqEuy;z6HEkS3!]tlhT9FZ^h
;iZGjm/LpZ7H3Gi[*b_%_0yAox``E<%PKhUuz9kk'e<cSyG4OB;SW~dK:t(<omY-+q[MWQ&Sa;jf#4+`7(@;/65g=fD=2>*4LBQZ8QFHx_;x6XBq98ys%`pFK@fVp~hIdR35%UQDc8|o|1tm6VHp/!g@9l7n4i-n?*.|zj!n!d`1HRL!6PI*rGa^o0c(LP5db%YO[+"

def combiningClasses : Images := .ofEntries <| tableEntries 1960 "
P]Ej7E1zR.&Z/:`/PMrjo>V_U@dEKXQpGE;/JAispXL$^aaP#!pFon>sEg3eb_Y~T>sg.vtwxQLeWMFJF0Mh8fXFhLd=*q`,)*[-P8rg),u!%^Nx>?)a^RG(!T)Xn(V&ELt$!yF;)]e`ic&-KiJ+AKQd*i.Hb!*q(7?rYX.uzfkEa&26#?`k^]Udgsv`~E@9-04J+8=(%$O^of!Xhyg.C#W#'4R<HR.Nxd8d5TeYoOkoW4.O+udsl~|E#]uuW$#4)+dTkDg8n+e+!jcgPxMb83&h2WZ_C=Vj+ih5jc4mJFr?&n)OL_R-,y$f/X%UwRk?Wmkh~Oupyh0SwzS4X=S6ayt'Ak-MDdOC66AcKz~2A~c`u#$xDC5=2_oYDmN66C%]DaNWRf9bgps+:z0><U56ejtj+Of86m|h2QvC|7d6:~~~!0Td)%#;pTL=)S,%)@EeCe:XO1ue2X8?Rut*yTo@kMW,K?+v,>,4
%u:J.P;-iHLQ~&W5T4kF~B=Gsyl.Tg9vmRT,8/&Z9u3~3Vq93M@5QNKYNd%h=QaaXg@gUGN!0q&Img[M+U+BZO?Lj,v#A#+_kTDgcn+$.GGUNX;2:~>[O;piTO>'2.w$'M^bkB4AD]HdnnrSu(hxwri`lmEiTU!H<hF3oAsuTrP><jNOxe&Gy$sRb!O+uj;G1^_)srywU/Sh'/~ud3IZ:<OGm#sh7#pT(o.="

def compositions : Images :=
  (composites.map fun (composite, pair) => (pair, composite)).qsort fun p q => Images.before p.1 q.1

def combiningClass (n : Nat) : Nat :=
  match combiningClasses.get? [n] with
  | some [k] => k
  | _ => 0

/-- The full compatibility decomposition of an identifier character that holds fewer marks than given. A
Hangul syllable falls into its two or three letters by arithmetic. -/
def decomposeBelow : Nat → Nat → List Nat
  | 0, n => [n]
  | marks + 1, n =>
    if 0xac00 ≤ n ∧ n ≤ 0xd7a3 then
      let s := n - 0xac00
      let tail := s % 28
      [0x1100 + s / 588, 0x1161 + s % 588 / 28] ++ (if tail = 0 then [] else [0x11a7 + tail])
    else
      match composites.get? [n] with
      | some [base, mark] => decomposeBelow marks base ++ [mark]
      | _ => (replacements.get? [n]).getD [n]

/-- The full compatibility decomposition of an identifier character: none holds more than three marks. -/
def decompose (n : Nat) : List Nat := decomposeBelow 4 n

def composePair? (a b : Nat) : Option Nat :=
  if 0x1100 ≤ a ∧ a < 0x1113 ∧ 0x1161 ≤ b ∧ b < 0x1176 then
    some (0xac00 + (a - 0x1100) * 588 + (b - 0x1161) * 28)
  else if 0xac00 ≤ a ∧ a ≤ 0xd7a3 ∧ (a - 0xac00) % 28 = 0 ∧ 0x11a7 < b ∧ b < 0x11c3 then
    some (a + (b - 0x11a7))
  else
    match compositions.get? [a, b] with
    | some [c] => some c
    | _ => none

/-- Puts a mark of class `k` in front of the marks of a higher class at the end of `done`, which is
kept in reverse. -/
def placeMark (k n : Nat) : List Nat → List Nat
  | [] => [n]
  | m :: done =>
    if combiningClass m > k then m :: placeMark k n done else n :: m :: done

def orderMarks (ns : List Nat) : List Nat :=
  (ns.foldl (fun done n =>
    match combiningClass n with
    | 0 => n :: done
    | k => placeMark k n done) []).reverse

/-- State of composition: what is finished, in reverse; the last starter; and the marks after it
that did not compose, in reverse. -/
structure Composing where
  done : List Nat
  starter : Option Nat
  marks : List Nat

/-- Composes the next code point with the last starter unless a mark of the same or a higher class
stands between them. -/
def Composing.step (s : Composing) (n : Nat) : Composing :=
  let k := combiningClass n
  match s.starter with
  | none =>
    if k = 0 then { s with starter := some n } else { s with done := n :: s.done }
  | some a =>
    let blocked := match s.marks with
      | [] => false
      | m :: _ => combiningClass m = 0 || combiningClass m ≥ k
    match if blocked then none else composePair? a n with
    | some c => { s with starter := some c }
    | none =>
      if k = 0 then { done := s.marks ++ a :: s.done, starter := some n, marks := [] }
      else { s with marks := n :: s.marks }

def Composing.result (s : Composing) : List Nat :=
  (s.marks ++ (s.starter.toList ++ s.done)).reverse

def composed (cs : List Char) : List Char :=
  if cs.all (·.toNat < 128) then cs
  else
    let marks := orderMarks (cs.flatMap fun c => decompose c.toNat)
    ((marks.foldl Composing.step ⟨[], none, []⟩).result).map Char.ofNat

end Unbundle.Text
