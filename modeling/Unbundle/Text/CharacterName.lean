import Unbundle.Text.Packed

/-!
# Characters by name

The character that a name stands for. Most names are listed; those of ideographs, of syllables and of
variation selectors are formed by rule.
-/

namespace Unbundle.Text

/-! ## Names of characters -/

/-- The signs of the list, by how many choices they take. -/
def nameLevels : List String :=
  ["", "", "", "", " AEINORT", "DHLMSUc", "BCFGKPWad", "-VYbemn", "0123456789JQXZfghijlop"]

def nameRole (c : Char) : SignRole :=
  if c = ' ' then .divider else if 'a' ≤ c && c ≤ 'p' then .mark (c.toNat - 'a'.toNat) else .letter

def nameListLength : Nat := 316634

def packedNames : String := "
!,~FR7>1H;IEfMR^u96vHtQ2-O`;@_R[Hx)NY%PnCkNE%G62j7DG:p:aP4aQ~]c+@dG#^/z:%<1J;o@+xSuFaGaOWMHac%NjQ7I.zuZ&6I3]n&QieN5[Dse(;>;;%'L>DBIs]cZ`U_u#hr-!9/fc'VM8&P';;62,xlTr37y.OmtW0+bkQ|Abf=8=h(e|HhZ@z|HbyC#3xlBP.;|Yo_70L;BNv3ohRpXQQAwYq8[14x()iA`qMf%1s>fEk@H$tJ4?n%sp^$voXXh'*G$,.>aM;PZ*xdQGY3d0([dGM+x_3E79ZJ-m$dED.X]CV|z9I|=dg;]=3H.5s81I_oC~21b0CcNU<s_s'fI[DZ-:N+160Gw:gf'Ivb('Bc<!_SG+e4c`t2$`j&bE-DAzU%Y<$VBdI*uVi+epFkEw1:$/i2XE>k@FBUIRW5J>A$n0n,4s2JC+opAr1G>AmhK%8KR5bub:Ub[ZZs$N#PPQ
%@T?8l>#4ZV/Kdy~#U25)c&6:I+ptkfc,ebQ_K=.Il@mZK=b(`!@/_~W9U?l2djr2%I:F?%-~g66q<tn+UV?CtV79yc;]?#0AK;cjK5lyfzMPN7B5u.Pk^&Uw0I1xJN7RKdcdtM396|ZJBdz?Oz8BFa!$0t5_:si.6(yG8*|J;j0LYE%0/%cGX!n5gRY@qzUeew[J;XU7n`=W-pMr'#/d$y35L@EB9VHfdRg[ivnYG$&/[@|':^RyF,g%bff#S~a^oaKaJ@1fG[)x5b@mJ*oQ2+~ICzoH7iFSoFzh#nOPE@&eUmyIb&M8M<jpN`GxMpNE3Z`h!1*#l<-CeS,cjN*E-u|!0z&0:TCEr,E#'(kQZd0&0<$HzyxA7:+ujZ##6ianu;#l+Tj@aMSHW&C1N!bkxW%/vtMPEgBI?Sv'$Hi[t<=A*v<Q|M;+Sg'5qs]ZyZchSqWsbEa|gVPZsw)l[_Gw*fSM!~nzmuX
Z#pl.ia)i9JN|+^DYHgB(TNigWRWTdP3+|a)`dDn0rM6QP~J1kv/lJ$l]%vFD-xm<2W`YjX^5Z)N;4wLIA7~D^hvq|Wkdd6W&>!iYiwUJ+'[=_oLUv>d!&5UMmmW+bkx%s0E;T3(lEPvs-Z3d|vV>mc3xh*lVgSy/)D=Rp<lvjnxo#B,Y8/uVR<w['K>A]^B[K0/+4k)=NK5RKs~(:<#sDP*h20?zate~Z2J,q-iBzdzo3Pk@[K6n2n#bU%xb,)~clw+e8Xy9u><D$g~@Vr@KQ%Y@Ilc9R(HBCKG](uT27xuVZ>Z[!#kNBk.Y`[W($>XAqWbuZ@@0;Y[B*MO9s5nKIQ0e4wOhP&fhJAThN|[Cd;h-8vDAPg&40#(p<m+x>:RBL.Uh;X*v$OyvI&X%ejrF9|!I'au]u|y#w5y-!|&c+VmWms#CBgSqk!_+O2H|@vnU.&Oy%LS*Fk8fFhCBl+@3$2_g%~YL&~/
[dK';2wM(GDYc*M7nT&OEP:]rsyXy''@Q^5O6HjAz2^G_t-%Uzc54!H2OUT2r_BFg|NaEil6p9w(68n/sC3NE_Y!ie8q'GIT5|-K^;eSD-1txDy~4lW1/J3LA`u:7'8`^53v!#@SH@Hh*r`w8ME.PHa38lpY%~0XN>*ayY71cT=n)%K#MbnX3>$:jADd1auDVL>AQI1t.ko;<Q$d!#+G%!:7abx?pSjX;O4A,?hne$vTuQXp^~X>P!#-pDYapyU`JD<8xE~93l:^iL9/&Qqn]5.!64s.wm3hLJ~upP%G+lgG=W@ZxB=xXb(L!Ps*e>m'GVGX,?KFQ'^Sk4!Kt1);Ag=;$@JJ?LR3vSg=MWzUmRO*3kaM88z*e:9T<G8]a%T]?FU1h[36ZFDg[]W=1ib#1Jp.[[/mHt=-:1D4QD`[yv!]Fr9hga*@.zNf>'HuQ4Kk0mUmU'f0nK$>OKQ6dU_,`D:Ty.k^IzHn
^PG~rgwnpsjJdk%$F_9Kr;i_v'67&TLbk6XH#^Z:I.T%vffGv]S$9,c!USL-kFKOidFKx-4T%OW!J_z@;JhC7EZ`4P'_LIA%joDr*5a-FT#>+-.fs0,^;QQd^W~9W0_%qO2aIy`A>hnWTF;Uq4'm~PYz]v;xK.DQyL]_Ln,kh!'Jv>Sp>kX8=Wlh4[hTA8]%ene4BI<-$U.1-zxVzvv7,UI(]INg(uSWAZ_~5xk[mnA0~:H3Yp$v.Zqu#Lhw.y(YD|J-lF#wd!~_Hu<ePj/oFvOWMH?Ij+^X>5)1#&^y.S[b@*YT%IV&i'N)pmTK2$e`7g.%oAFpL/`jpx,w8VRB2bgFiN]67xXs:d-V|vcO6w(O|LMyK56.V&&YQH_.Qn;wy+^`G8DqZyvr=zr<yi:&y2W4ptN%zHdEC!=bVAQe-U@,hI7L:sk9[~,3%1wS=^D^;(qdO24*K-~MeMz)@3h$M|-gVbDsNXU&
N2]d;Q8:AUzR(@wUMl]c8ZdwJm_;;Zt(|s4#AI6SPyEoHUTzfUT3mSOG(*FO=5AQ@XP%=f,>J^9V?l;Sy2<E~F21OBE8Nd;jKxg/+-KQ)9)k:YhNG_r^g*,y^'4p$opUm@Z(mHlGxX^wAnwk,W%$*tl<j[1ur(yWW1Y2f!KV9MW]8<.wTcVCIw[LT2Zia<,CH''0Hv(7*4Y.fKvwRhG0nLzRsN,Enm)'3Y`NX-zYiY?53/|i.XCiw6D[*6nA|7'VUrCYcs|Q,;nz~f?`Ra9cny`o-6_$l5$h2uIe'.#|-,WV|12<kW,Ly|qca?Hz9wT$#]B,x'l?oFsr>Vdt*N^,sZC$TQO5~'a+nZ<HCEk1NP.)=nVBYJ;ayhK4~7jhB(4G#aZ=<[G6[H1OV-I^3h</XvOK~^IU/e>yY|?5^xE:g`rdm#ChpUe'1LjeC?J8a(gSaE4#(onk?L9KoJ-?V4W?y9BH%dp~#'j7
C%lZ+<|m^|<#&xXW94U-f]7KTw7a!u>q$!bHJ-P.P]QU-7mdtqj?z_4gvCZDJA]xA#];@2nIUt`L[k*:(xY!@hF**+dx.CHqj_6L~'gKtH[inwW0u$Y@^:+yCIi,+y)uwy[|w2*|6Cei7~j%jjuNi'E>Z;0?a%/3L:=@5!h5R;U$$3d:i-XE|yk=ex^ox#(tFq$Z#ft'q7tMe|Fr9rz/9LWi(t7b//Xd`&.@^'egHz;I;?AO[cAxP%YiEa.[O6@Brh*kzIubiqJJ(ORq=P&[`fKjYFrL|?)T^1nKON6FaCO&ShcW?|V1rGl+ZQF-N4h@mm'`wIrq.h6Fmj9+TY=%Q!//aPMAsDVjv'D`uY(h/gCoubm#cmy~X738x>UN7upd'TV~zs%;u5l?P$XEp`$(lMecJY>x]ZQ9C?,0a,Yzg+_3gTBY!OZH`F6AOuh'@'-/uCWJ,LZv@T9txjaZIiN+T8sHb0$IW,0*
HyM5),XzQ:@H4$FrTCo~i,yMTlCUCJ%Hdn%Qk&0-F^EU.P:)DtfMo65T_Q4Vqzo|c1gHT6^w|+&!GUiIfAeYQ.Xz3%RgnaQK`#7tY:b$?A[L>V%q^BHSkdbP??tn*P$T9d3>ZJl.^*x2S6)I9z*<dpl:-C&Xv$)hJU|z'`jVUF8F%l+AW_r?F`g(GG(W@#@zJsC$zV~STw|0h(-,BJ^2E8m;Z>]p-jFGe,Y?T:eQi%Fj4)%0JAoh[>@k-vLgR-b#f'|,s$[bsHWpnS:]2<*.m-cWgUS%)Hw]&pvRlV*9_;=l3[T&ME!8_[34b_G(Y+kq^QA]@LpP#7S)ys2H9C+GF`A(mk[(xU~zfR0:().:SRY=dYDE%0IQFU--9AW[vVkuof>BfJ3yS*1n!/&Eq2CfY`AAReM!y7|f@dR3:]$N3YZg%Re3ncn>M+$w#'pHzPi]P!RE+Yc^1ncXMszMSr*~U_G2l/5H0+0<
FNoFA-fw#/7EWD3]/y4FQhuN>P[Chyo/^DYe?r`b*2|RTm0#0D/0[i]=mVXl(7%TPF$V!0vKCs.T/.=*<LFF-`Y3Ewr7g?cA_,u~Wz]LAkB%*jz_X&,(wGd0[$(luz&K#@&nj1s,`&-B@agV!z`iiMYW9r?<,+jIiJJoehF/,xZBT%>YE37_0MR'u#LZd@)j?JY*]68bb,0HQ_[3S/faeLus9FB-dxA6RZQTs1`O=]WLE;B0Cn82,D:+*rZzsI2O+$Df?1YV:9]]B3P4nFj/2C[W!h5Ex-&7abTSeg%iM1E1jj|~,^f?Lazvs4$r*yX?zp2XN?$YrmRu~[JF?cS=V:L/PzLR[,43T+6(3otaS(TtV,7?K&:#`bL*-p*|p^_bZY0K&b^N(6_yE]b=5%2G)p]R[K~F#zjaKO^Qe_eImO.z!3,JZ@7)Md54s=;nFbUZ06SfW]z>mQqN!$1Ro)Tx;L.7EjkU`Nki
;6Zc`eqW8KuXp.eU'4S*dR+$U$)D`WG7eE&,Gn4|$!1uh.rQNih&R;/J/DE|%NdKDr1|oESsj;(/eDJ#Z]98Zu>?vM(>moC<CNNK`%VTGN(!d@8_3TERuVWah@zt0U`8kL51lotykup9Bh/1|-A)#g.$;:(@f(a20Go`jWa7tHA5z;3^qe|zd7cc=2$nRP5S_T;3&Aq.hxR[ZJ4H|KwO|[o=n5'JVv,R=@JNw=:F363hmS69;2%8|+M+fqPsM1,gn7F1LEp+MYz%Th$?me^Me$Lgc~JOW7tmS7JeGbQdA<G;%E/2/L#tm&&hZI(f/b9gtyRA.9i;2bcD?`w;=aP<UGrEwA(pjq@)p5-TJ'XK.Uf)jxOQ/,H|8)g9cyY)j7i8%$5jBaj(^EH6_j$k6d[%*@Dp=OSd~qY2`uj3fyHG'y]?juEf]-j178@E4N0dx'6;;_dve-F52l1^'3Sr&~LPOX0^z]g>-2ll
`IZZ19-,/k*Y^tU9[Z7Nz]*izul_$pTJ^JU(~KS>k53|@%nYTI)oGHB_j^*zJ|[3'E]?6,mYv$SEfvEN_S2p+-[RDTtE=Jt=EHQ<,AJ[WIm?k4rCDWU-8GeZ9*J]FB&NK6S3^e.D^9Q~QUd5PrWVS>4X'^r@vxs?bu&gJ,SguTpYsWd;jKg_L[@9PuVi^1I%Z=xHXrht$)-XwN2r=*!tv%_uZN]sc#u%jk!Lx~T~roT6Rog_nC.IK>*WO59Ep~|B!?>i;ftKzs^pdM:0c%lL)~_+3@>@-[MdM2hw+cPGp:d8s<WIH|C~@OH@%%4Y'OJJwx?v.QNEbtQNCq2NJ[Aj=S/h|qnf(yNxm,>IUsB/F!)7$'5:CO?`f1jp2F]Hb^G*/9;cWVBiDV?egrUv/$4H;!rq09&lO<,_8NUJLI0#Ph4e:N-TPEd6wh&s)aC8R*8>5if+$k#MiSXMgqVtg;LteX&[ca1CPENf
p0HZ=>C8lRz*snPz+52W'lok4|9#L9o4MQoAtrBTR[p=9h#4WZaE3<8_)n#BV>)tZfIWhg8l@_,?ifdOIv|^I5+'Wk`YuEGbhni!>$T(Mtd.v+Xzdy?V>#S>hWw//Ym^'uBx#gCp_sODc;Q-=U#cq3e0m6d.X-$uqSU3As7<rh_`3];ja:6^`JG`1K!|GL~9pH2,+AJe[6;Z3rrW7sM!WbxQN7Rwq.,nq9C$!z?B|/.#,LfZVAVAY(Hb]uSxCse4<pR_,a6:MVgt1YO+Du[=gtM;&R*N|3_GZTkyG4z`Po~2s%oHW3p%qF6IY,0Q)0*$[W90].(=Ly>_n?G@<;J$e=r>d,<z+)@<eF*0uKVF[!.$xa/2`lL82;r|gGUt23A*KlV~V?b`&)<yh,lc]&ojR2MR+<24nj'Rc^L(6C`/eIm+X,d>/u.<o#.C-m|,O8ZoSQmFKxQ<S;Llqp1(y0s3$&&t2wTBf2i;
_61y%]E.`VgW=lV%F!'#Ovxm+MDkIXW?NLPT#X/peP8Y~|R;p?ul!]GT:~Z[x[?CBSgS/jhou$;M9i9Vmcx:&Ihd4=;'U56!eRc7?22o>;6I*Q.#^KAw4-'p`;$fj>z0[Ukt7Np?M*]rs.fCFOE5[;)iv[J;LNJI9S;~-u>DNgC-H>,,^zC-?E;]F(+VTPwxV7b?_FR%m9nWRzsqSot,,dX/K2CV;cmP$>N@cE`u~<lK=?M099+]T@*V^#8|%h;#yReo;0^88pykoJqMp7z@k]N0Hma!kWJxT[,'i|y|bI*UW77_(/INV+'/Kb'6yAKqu[O`P2pB_$a`,@inh05h$TycZ3T+]oe3F,/u3Od-;)'S9Lqe0ktV,p'#LYKy0TkO<c.I/m6)d=7FP1E4%5jP_iv0;2gcm6w0&2BQMqG.[UJr5BE5NnOmBN$F,o%4llGa.7:[?G#IZDX&V9`41~FSr|fNT8GmHNb'
c^s07>fF>cc9HhB6oj%7EIPK%9xt=QeV<gk$q=m9R0y@A5tLQS:rjjnXLl4wVSX1~9u?W[T0M/C01u,C!I'qfdGS/wTdFq-XtYhk[]W?;isV!m?Uu5:3;tSD1gK+/zg>_!TD5k[HF<WX)vLH?.r;puYIlma:=D9<+Q#Jyt_1/u_6YO;x72pkyMp50c^l6-t*'u<_OW;Rpc-8@@<Y'?1m^Fcd9-`/(*8q7#UL]K;DyoPE#lrFWL.R+k2#J=Ao4;Z*O8!$t/#YAvxa?9B#VDgC,]|yefD9PEW1?/I6qgQOZEY6?D.3:H,c!t>Z/qX3NFI8r|H-ZPi&PEr1`rIp`L(aG>pfZt=Gt.zz_oPL:3|hBtt!@5.AXiKbaNjIQVBXbLR@K:ylK.ekuwD,i5b3(XkX'aT&96r0g=tS-w34:niUI-.9:%c0I:leY*p!9KtfneRciJP:k<VF)mr)o,]E.rPM3'6oc)rX~b78
zuz%]WC4VN>`wAM6mQ!zEE6q.Tgsm[F0P-];a((EN8<+<m58D94t=fhhW!ADe|)f5y(tm?nZkkhIKc]k1%y?<UR'&ifjodjq-'O+IXjYC7J?b)2I6aOd:aYDeB8@??_n?s7%6oWZkl>'Ef5|,zWxjewCZJ_=O!R>F->znQ.EJ9/|9*-^S1w:E~|YFn5hjPss*b#ZbN`TIkWVw_Ss:zAUia/`7`gJ9woRFqDAR#6jm*kb'By4>FuR[v`h2V>t2g22Up2]&:HA$qe(Zz/_+L(~yJMY#rpD?7Aw]$'QQGnvP8c[~QXI;3O9UR+fD9MI<bI)cQmq~uP&Y!8s/8(b)pcoCuca:LKi)Q;Ana0?).e`lh&ch=DeJ?c+[DO>JmhT&1(Y`(DK5LM(n5]h1;cGe;!K`0*nQGbI6Qu$8:zG>Kv|`nIu~.Jr?3pJ0EK'QcYj8Ke$t!MZy%deP'bfm`n_6B2.P*DP_i(BSg'=
CMxfN>X']@yx^O@,sYc7@D_-`oY^zx=a|FcgXdYe,YY((:Tw,)=BDDM@kfWBL$HMrSn9WU'zj!^$m!^.Bez>K(1Pe]KWlgubq=Yr5nnl9IpVAF|FwL2q$&_K>Bi_2k=f:[!_XWiU3TJiBa]:n~kAzr2G+_K$6y`0ViJ1kqRWID9sMRE~*a28!G|zxX%XnS-kjI?p3$Iiv5cCwcg5bC5QM62^Edb-E~,7.sEUj><vCiU_Ge@bdaHI=*^7rARp)cE0-]4t;DQ4[]c!<.A~^ip0]qdxB;+hA(!tQ1o.*zuppB6ha;7|tb5/x(4`U+ilE4wlW$.mdg(w-gFaO>lEosHFhB$xn`;6g(-$pi;jdIb4cWvve|^g9PyqBRSL%)sFK)A&+,MbIM=u)ft;?`X>`tHXVAm8k=zvXL;A?X<-2y-/+s,|QhBLDb:j=43m'%25#7=Fv;L]d0qRJ;y;-#'f+@s3=KnSx;.:kkl4
NUjW~m1`J-F$VI6SHpz;L,yo12DcbS1>tbY8;+Ybe+8B#OPTT]#29?0Z@<y2&?8'R-#qpC]giHi[=ml)Huc@GW>8=(bfTxPUx&K]o[#g,%EML-`WM6q'/@;gssBtcE3w2n$Btu|=ZMHY'>Amc]tRrCu8M|;Qfj52Ju0khd_`6q:ej(7]))F2#sYL`etz#XYMT@D.Yu1k[MEGlGVPlkQ[Qeu[8Ft;Znz(6(nWhjT<|.Rr;W|/t7a5**<Iw.8_htvwtki|H~ZiE%=hJ&99A@&kvt9r0kUh1CL]kn2029`ujteqljsv^sQoXx#&a|d>a$7eM^XZ0=:~Fu9Of`+'hYlH~cIY!QwT3m)#!#UAKd-h,RlPU/_*35L4q+~~bN`)wD;XGa7|'ERm=nzO7bGOgnp#<11&_CxG6izSD44FlN:e.oK5D.&&R_pB?Ap297/l4*%kvPDq^ceO,GhNkTLV>o#0nwZK|<toh64P
'ZcnJz%!:@aU/#F&hgPGv/<jw)-bQ)Nu&P][HeTSL0&##_y0)TDwjiVO[zCO9=qAYzHZt5tiw@%WiWdg02U`_1.|jms<V~$oh/8;w9Y`CKqND8z4qj6Ot'bQq`@wz$oibEeGv47*S`j>NvWaA*u-F<CKbcd1X]'s!i+zImY0VRPi3#l_CM,*ZxWr,WO8*yBAp;fE2R]A3dLqL1rnR&?%6X1`u+t!cnj@z@(Pl2@<mOL`(8.->(=U[(1$MDMghsL0-tQh8Eo'*wrID`S=LPwLqeuFP?$_JuC<_u9xGeW+H<.a'))zEFEN#C9!-r6V)]Pi&rty>tFfAQr4(d17UKIw[RJ4:,K_7e]v(O,xF!d|UzR@_[ue[_>t!MR1aJ+ZsfprUw`=#LM=%R8O!=Z#7Ri&y@MDYN)2X>.ef..3*)xJ1^fr`8P+)yj;tq/;I&-B~EzcG<'2r.l>soYiMIm<#K;ww1~N[Z)R;9_^
)_,E0DV.R7s2LNfd2bK'S/8,!JYU_5*H=R)Qu'AJ<j5MjW,mlR=[&D>.)#d^am't!;Y$S5rub8J+a/#,M+~n&MK7acW^r1;rY7Btmz%c0.77~^W=)y~Ajq9VMZ=ZyPZX>lHjZcq>#LV[3d+#?iMlqK'eqyJ60GaG;-EK60hvz$SvE>fYjiU|.lk,/Al@8v:bmWYuUufU0#j]NOsb1zNU$[Q?UvB`1T4`]#MWw7q'31FPJMNwp?bNB<jsYNDeO)NBVISZu=3ILSEP-v`aJY&=O<F)XuF]D35el(T~ho'5OL687YM?!?)=_Fw!oulQYiq/?Ru2Z%I|*Y%ZNml:bl*w[mjhjj'XxgU87=.SD!`Pq>nDWFqV7_q|uFwes)8K2T)E%673O_VuhM4r5>=#acG$`Y~OfjpQPhVc#<e0Mwj6F4hwF/Yv$+&-r_w(ME,|TI3q]%*u^tY*;1d~Pu8j[tDecYGjaFf)$cnP
72f[~Iy~HEi-(J|J6P#Wm_0xzN84[tV8Vom)8P.!st:.FrbaN!or`l%[,R]G?^vTd_Wh-$BR7T?V0a6$^T?BCxxgoaeefzR2v0_#A[npVx<^J_hwam56jMWTTS&JzwVU>|;^3;oGtscQ,Z~_eXlIN$(7-;Y2B)rcMXUGl2AmM!TM~16>B%J8341CgI$D4WgITF@V%GjnHW^v&`Y@k;VkVbrZN]qhzz=l>gqwBct9sqmv_Iq)('4xaLsGs*uWR1D_?bWujh>F=(Wt~W?ICt^fe3.KF5.,_VyLT0V3&Rg8_!Y?D6QtZs/5:~]U9eu!>KC8x'zWjrB5E6S/,3-ZJ(q)TdgrP=p&;ev[>`B?U**w5qjQ#96Y??B#As*m[?Ed+l1hTvobq|!zavl#=|XD[*d@v9$U/&;6eLw3)<I/382+zpP<Mwspfh+U?_3H*@_eQ/f_WBRYX&8y[TGY,vg:24~Y#uy,=8c82zZ9
#0)T~/JBwZn|DV=&i%3&:RbV)gM,0!d-k6C%$i=_+h%'we9+dR#Tp-3mt$@pvn)'&SawBMXjB]]]&=c2:p(`71L~^gMEF(n/P:wMrtGC6Ou@bbWv:*aab$~QEpr^bs-gq&kLpl?Oa;9|;1e[1KlhFZrpHLj`o^n:X8QN_lu.u;|YS[|*VVPhd=e3`Y~k9K?+#_9&)Y3#@=@-~he1AB[,3n?85c5tHa<6&yR*|7%sU)9Hh2BUxq,.VAbNV-U0/mpV0qb>;U8TE|V9k`ek5nsAq8U~#N`B9bRwFL8W@7,#se[zrwON@RHm%^pxg7CVT$)DF(8nmfadCMCJr6X_#^+K/Q95ve:5u4PcZc~Iq(SMnE*!MwY!,BNvJe%@oc8UPe]v>RX8CfE2*>HryRu;l4z3,eO:Y!K+G'0=N&PeztHEfta?n80`?!ot?*T0'lLe`q]MH_SB#CG?4@Xaoq;4OFyn;5(Ud4*hhquy
>dBk%_P$JmD?fxFD3DEfnQ7f_FC?DxB6Au:xrWDn8$5>Z`|8`1tdKn|J0t7k7j]Axx3oX1c!Q?.4*JRwILdLz#6<lu&>X'.p]cxdo3o/g1j1EmYf<t:m>xc7]FtB$/Ee@]xbyP!CGQlpTU8PI#YHNpADN8.>uh>GdBQFuM2Erp3PE31S+)B!NY+(>OSC0qk-S=t^5IG:T-uE'@:kf'(/U$HmNc(*w1^gUY6z|1e]f![gGKi&0vaO5p&6j-$3FE.Sq]_q.5qowm'Jy|;D~$:|W,$PckE(asyFt01v5aLEz['ZV<jUTV(ttovU@eRVH1ws,i+<t_=F#&:;WylcY&%nyz8K@_P,D:%_$&R*6#;Xi0<RmiIVoQ`FZtYR-?n]9l'Pu<1UTbpP|ceQV,Kc_ASn]9sk.V5idh.^D3xu.p'*K6I-3Fh/:[Od~qMvUt*(%aHAZg|K!)-n3?u3gLhxQw.)[Q;S51W(o;hG
z(T?G?|<Vj,y*w~=xxoPm6L2uF2fF]t)xD98A9nYZJt&L=B0MWu)w:vs%==vUT;^d<j~V<lxU;(bIutq,|)iWCm's~(dr=AiB-#Fp5h^FaT-983Tcn-xSU+QAaxe!7)W%>y^:K19/=Gb*VlhNVNpb0frSs!-,7;u#JO'i4kLBfN95kt%3#8*XFB^VE7Z3(RM$>'dw--jR'3]55U1w+'N.@VSkHWzb6;x[N;Z/`c+59_!i)/mK-'4h#g(5Ww$|%bN__AsoKVS9P00zuyd+hG/p)yjw;I#?AM~55bx,AivwX?F.Um&-3%[[*7a7:/IO'W#oHPt[~z|s_Jls8/Zrk&_EUHLSPQtMx];5jCPJ7Nto=/zR).W.FFG+]Kge~aiGD(~4t>r8ybfAc6mU2lGeukoUAjlY4epG_Hqji:qx(tovNY;*XK3D7&-LrM#SUix1GmQ[(rkyrg&W*U2d_+EF1.E/^#)k3`>,3+;
$M0p*;YmS'ye5Dfs>h2krP0SOq/nec:><74`|r`2q^8!zH7.W2r[d[)PU~5g[#&&=GwNWZe?wb-2!%v>C=Q(/1dD5@Q%4&`|tkgmFRbNV.jk`l&quCUFwC/[C:(-Xi)n-Grr1+XIcG'^iDAg'.,,cm`E?mT@h'HvGzMfKMiztTTc$,@bHnWe.jZ2M8uDRX.Y6s)lX8#?<:OOk*AUkr#Szf)|B_z~!7JKc[]'f<n-EJIzw98[ULgj!S*oMQ/,VEI_jw%AXU<3jvu`CP*7.aB*-k-^@_Bmih6Kx~d)Na|2QR8(OYYJE`GTxfg<2Fl`1j@+bd8.Yt6hn-0qrY.TW%PeQA^~m$zcWAX_MrkQ0:Ba5PPpxK&|NM#G7XyE9,lFf8mgoEh~5Taie8Y3,-%Wim!f(FFuSGJ=||~l>/F_<4c*R>NUP,8xVY49_)qy!)Y*EWgV580uI5<HiNxTEF(IsJZZSu`W-2kV5S!z
89W;]kWAylZaT-&q*hE~1tptns|;]dkZ*7A(~IzZ08@lV>M]lv2t@6<(5~tYt/VNsFn>m3#*$l1D3AmnDd`RAUq1DBVe)lL&P_`rw<:eMZLbz1[-!Rc#j3|vJ~y%,4w>_QS|OZ&coR%GoL,c8W~@z@MuYE9w]oOg.[RtvvI6]g`,=6xwR$=e)34E'izcHP25Dk,NBR&0^Vh]_OAs;%dq~9vq@NZm%m|$oR.--TKFgP'%7GnzY[fe(61v`re7GI2k%|@VH:%pBHy>Z,mx?'t~t#8JA<$)>u=cn$I/ZrPV$'!D%6L:Dy7!*Jo-w]7/!h`A,_-:QwjJ$ns7iV~5CcC:jd7Egj.gYl6D3[:7H.,8+IYbDE|&Z#*+$D@w;a>g:5_<sWfS)Mw*TOun@5lReQ._-x=aiuw[FQz@_tD?z|Z,)x*JGjk]k.'b*5?VFCG`qN4(xh?1GO^1RIf>V|~If0*vvu0)iq7oQBFY
TvG'u-$RJ$Zw5O!8dR=o7[Wf2wSJ9&w-~X5_aO%d!a#ss)nBBKgWsyMe[zV3nP#'rgUFp9W'X]Dsx`?u8k4-o+pvHZ(F1tqrg?$,Hsqj]u.PyT$^a7uwBp[]mjXcA'8!TRTjIp$KRf)[(!P#X()yW$wBb6E$u'20K[`r1CGs$p(;nBYd9EN?xtG|?jZWTb=7)jZ8f|LB,vyZz)*&.eyWEv[A)!pe`./MH~<MEn?1V`J%je<tz*|U=yU5*20cqm#'4@/n|e|V.#m/JrG0qlb2sw1><Jv3'kSy-Ju2CBA3kVCl):,J%W*e(0d8</?#HXVZkVWxb-c-;QM1&)4W52)X[qj]xmQ7,gysktvai;<6xhbZ]W9vvGm<gA9VoWsTflh[8YZQzXM=nLOjsYw`sSVBi:Y@5Ps3^8SaH)$Y;)P5yk@^230ALexd=%*OH8G<e^'&fd_uz)uv@C*H1j59L`DovPlz6[[/VoW[
=;EXp4.9mnM(%Rl!/(P.'qS&N50%FR$xS?yTN-:Z!$J.z_y>@y%[8Qa-y,Nkiay415I.cUjSH2mtc!5_QIEKh?J?BZ@kSg3/z0wS|=@AqsBGo5%s#COflwc.T~i[$4L~GUk|rDcMYpwY$Jy.V7-LcIzi$1:,pT-*&BHXYLeQ1'&iDSS]&hE+y3?%;@#&Kefdg1oMM3vqx40Q!W%uJp0`/?3;lWL#>Gn1iVz*n^)bX%]h~']a<veLYHQ_lsfG[KpJ:'Wo](Xv]g'D2:H.:ZaDCvT8Q,[(NMDo/z4`tS!7n*Lb=OMQ]A=n~;JP%k8zhwf2QWycVl[+xJj6>r'g6M^MCl22PeZj_(GJd;#-@94^jjVsvy80`[37dwpe`q:oF+0xi`~VsOKa*5_.1[1zVr^Zpf/#?Oc>?PZ8=Nu|7qac*w7v:CmH.hm&;)Sj4!Y>Bmhfk69|g6O*z!;ZNe)hzYVXkz311!dC)/=a
xqQBLXiVwrU4%;ON'qSzL72)XsHb#w=7BkQUWlD!o;'k;n1@WUH^uh7E<lhoG=NF5h#JGAgf?.UnWWTC(@Xee_]$x2|I9/qR`P3k5&k:*m[)k34b,JQjg<MaJ<BO0q1!s,(yUW&'>gWsvRh^Hj~9021H+[iR!.4Os;0l@ps$Upw-+-YJulJQCNza8%GW_N8&~#Yp@t-7m$cud=TB9P~Hr#Ockj_TeimH0Mr*?*$zq3a@_S)RNuWBCZZzZUm_Sdr)!)%wV+*85dTfp.o&+(.rP'#)+0Zn6ZSYkY6PQl&`DJ$q3ZqMg'PELoJXtX<WKI^]7hsj5*6ZA],BQ[!vyXm~3m,5RF8_P(0Kna`(8Sm0PJ$p2PU8>FS`o|_1$M6T@^b'g~*2I<b8v%;F)gedO-I*&S*J9cpW0o_H+@LtRVWay*iaL3x45M[U*AXU?/oo94Uyk//B~95z%yQNB!_Tg4N)^m0xc7ZwRANq
~nhHYa9CfDVHPv`JsQ=ZY_p(Ry]E+J0'<KYh$f9fnllf;Ffw(Y$v_S:|'`uYIuEnBmP^9KXc`MStmr]v)DF.FFeiIp^.&wa/]>@Y+.>mYIfk:rEWk~$4G<x`_b(/Xz:~@&ts<Cn#/Cr7D*p,k(nZcDLwEoC5#';CI=uKweX^MuxjdJvJau>D!4+_%M#j`5drRot=wsE_6cE`J$60@.4Jw4XY9St*T)p#_Ck^8[Gz]uLgF2h@VhzEAek9lW3=$_i`%ngGQkk@v'/>XnpeJp%5z#;ONiMNja4Oi!<hn(P];fdAF*=Vw4[&j+`@U'BAU^F`3iDa@q.a['3<*]w>a__0_O2,#8&B-Km+D3`58M(z|.+GAjx#5$V3,7r%fMnotr-p7W@eiJVL38v~n,m=.3_`v]B3n9Kb=^.1Yoi1e8w]'HZL3R5Qt'3UW+|_JO>,YG%$(e!5)nR4[xK~B<!my)+e+m^$;R81$|7f
/ti2Pj`<x5p7rYr!/m@CcCCYCw5TB[tUn5/8F,zjQy+!P1gmU)SZ5tb~7NMoh;!qfx.~k8b<p)=_y%hk8hmykI+kJ6u-!&mqpI#>T]<?L2&]62*;GG9<VCR9s]rY:N>!4O=1@?G|S^n5[VQ1M)xl<1ZHBh|z?e4F^moKNH'uXszzx_$^6kl.t&a^eDvnDTw+%D+n^W!hdetc;Y4xwalx(E%VNk!L1tkCYK6Y-jirBB%TwOXmM]xjT>)v1YUMKa*+$[,ZJQ,%im&&joD-WM!=w$/hE$9uIZH`XEvCLB.kkgUDMyYPFkZOC%2kktc3@8h,t4<2nTqwn:(Cdk@TEByIjk?0+/sMmote*@&ee/YRBjj/97o2EG'*ViTp)r~@L$J)5xp9=ukUcW|HE3uB8__+CWA8h3Z`<C[nex~C]9U:Wud8gG(uYY`93~P9M|4K#8tR7l[';NkTVSr$ZF47,RKFu9u=/)JC^rHR
*gWJlr_Sl_7zr%v)-]sKT>E4XaB1]'o<_g]q:^Zhgm7.0&fK<oY+!IaLH>dfksX1S1x$V_Jd]Ao1Qu=/cN$2Nq+n5NX8,gzemI|MyV.WQ!fMK%,rIkZ#X.1^2vX?=(_?yn>0vIZ1UUNozJyI*T?C'qrIe7aOW3>Li2-'3&(~Qs'/(Y@=^R8cD(yBF~vbshF*A5>Evf8HKi,8C#r]=!ZMp+wc$|C1w@n%O:I&!ed2V5h2OXbjlRDH8p9=LFU7uAH8OUTSB8Ogstg9gTTCoVmYnF,8vYy4<KLO_RpiZ-uy#;b<dSp2h^9bYMaTdK'?H5LZH_6Tc!$!p_6IqYF#~*kMv9zm7%SXndpR48nA,L0cdx:!Ae=9opw0dOrTFF,cU5#E>^rj+Z>yB18N.>iU/Yqg2%hv()1GSGB6Nm0+/UWx6f%|maImUWbZXNMC+L?1Vu%DZ1g@VikCSU;gluYh<~RF9GoBZYC+WguJ
f(e2fx:AHnHRFmt$.Mz[K>V6LU'Rhp*05C'UkhD2mghkW<3h~kO7t9eD[Er=,!B`!cLV*6hM/^3^'/)*kLa<<K!;[7EK^N-j4sA[%ym7Ka>KJn9W@LI;+(*ss@J0]VjSgaPnz-T%CNDm:a=<?.e[(*bZGL_rS.47ZZAllN2X7LC.|:SA6Io5k2p1vuH*Ee=Cj~rg1?VLmsv|bNmI1TdR,9O9<-?)alR)JNmAr^VxSu^w#6<#0VMe3QlJINNq2TVJKQAnfvfT6a,~p#ndqr&6KoNhzE5Jm>M(NN/Gmr<fPn;9>a.~Ri[gm~/G0|Fss6V*S3Dfq;PzGyt~G2*Pmc5F1&K%w:tsaWB1u6CJL>7!;b9.c7J8lYwOFMOOfxi-fNA#--,1g`+)sH7Kx~k[yW2dXIg,,ds#2zO019<9+ZZw#xLVcDsQ@f`,XiN^Ri'|?Mo_2/W|?RErvkD,gLXWS6r=jycSPzz$^H>?
*%T)*q;f@bZl]jiut<h97o]uyCi&MQ$K1%4XG$2xrcHp>q>hJL6v,?TBtti(C(DFRFA)8F9mJn6;Q$qRU?WO%#[?LW-eY2'`=MfJJ&M@q[]d0KlX:t~bU7!);cWioeSVfo#KjWAB,yvv1'Qq!_a~gRW1l@GBPyR|]V_s?CN,3VAuK!oN~K81fGN<,8+:4K@>Y$UeXcVN;s7ZHOr$4A5J!00M),cj|Jx/(9p9&:`e5lg-!R_er=v[cK<hcQ<v@~P:bsj+rd@g=r^PU%Qp0ZF?^qxa-%?TI[sbc'R9i]WuUp;hV5C-6*I_aelO2]r$ilILQ*Fnp5jFt+-=)bu>d=^jsF,9M@^?aD`Ce)+PF&Q`:iQzYu=LPa.v8R+soK$C0</.x|862&!aUqab<^KbR$zl|xY~BK`n?E4!4ZYy4Ys+~2X3P^sJ5O.,1GL47tX0`dOjtSxg.zzcEhlJ#0OO?*wV4DaGVh=45Alb
m<aw^6|g,7Gt_fFvIdDD6p(i/|dKzJG7o*fkv>Z#H4zB+hj/UiCxu/_*/S=LKh%FaCm,xEM+Kc,YBKboUN(kW:0^m'RU-&f3hk*&pG+d~r955~CS;9LeuD?`w$J0sf4*uw|lUT7_F8rEWgfBq7y74faQ2k`mYt^<a;!ezvnfX9Nv=43$hT$*+'fiZ$7IJF8,v*H2E7v/D9[oJszUZah=**uP4zQU%!t`_FBAwX1_HpNGp><;:oqhA!sr:YJ-Kat-:cp?o2$>F5f1P6~w3lc6HiNg1?f^a#F<tABA'M;&gyz<LYV>#$oITKOa?3h~3cZ>dG|=2.Re%|Q26o~_6j:Jd'8B1ur~~so#a72&_oL`=aVY@eso?<&gM?P~~yd@c;Hw-fiG(7N@U'eKrs;Gctf=Xuz%EH|vmrkOD3%Z_+jO:DKDta5VLS%]-7Qg<MBE7h<3,%,jLexX(^B`BD_,@o$Vu~;I,9W[L`pf
wYqnjR+XCI0)m75THv8.kVe~@[6&Lf*?Q)r9j2rd%>;$yG-*e3Qq@.C9s1BTMcJ?&DVkEUOXFee%[-*2i-(QJf3_<FZf/?knRkI#uVkjPICNsrq<&M.Yd^p>[]/JJA^+;0+^X$Q@/k:tH27eI:@CeV=[!O82z&B8IX0=z?[qAtnVH>T/F4x0v?he(1*D8bwmn5dBk/Q_Im!3Gd%GlNiN[4xVByRtD2~;|HBkud'-~P#60BN%)t/0m@DcYZL,Vi/e]l5*DY'M+u5r70`_t1jPmbXF3bllX9Ggb]~6j(00?epwDW&lD?Ck7ScPjO7g>ZDHs(Kx)>QJG),'c|eYu1Z,D0nL.dXQd<gZGH`3FN1fz'i*)D9^z=*>DZ1sCxwXxbK~gbAmbCOv]zElzs%=0')v;G4B_+e&b9IsB>O&3$-PD*R7-,z0R0cM1(0qlMZ'.H`&p4hWFU3=|J]3BsSI7,hwO_7M~b[mM=zr
G|5E%,YsKO>)x]RzTr0sAFJ#oU^z(<n)A*`A8*l+TTpX6`kVzcr_]~hRD4Y,$W/3z2]>h#.~bN^qXt'$iqX,K5!I=S[e>~zrU1X/]Um?x]v;OX$DNRezrdu?NZa)O>4L/Q%>tMVI;uZcL7lnyXpa.Y)^s`<?8/=PPcB%|:g2Dqqx`]wLQkl5(0y&'L_A9^S]>(0`pi46V8pf>9~f-szG7Qc7CC7lV+im&,3]3am:78,+GJagE|Pq(~,_ixp+SNb$xvrD,I*JH]@MoT(Oy*hJ(I%LIF<P@%fMGv;&z(-o~Kl)w)Fx;n@@ETOA`<RM.O+uu-rJAFW44R=oKJ*6[&_4%CK82^+JL./>fyu[d9T20mAtAe]!_NDWR~Q>*u/`w&$C8crJGvk<Uig['c]x&&Nos`b[Tf#_&rDyfHG)4lJ7cd]F*>v:x8m[#y|UU2G]pbzx0a:9!6^iivK*P]zTSfjP.4D'a><vYk&s
T~W*=J23j~[RKFYwv0q^(FnM*&kOVIKH<^PMfSm.alfS[Xpwo#9AB)[)@loRY=YNV'7HaKU-Q*aL`pl;T&9]TCl&bye3S+AAnj!U_gP['1JwpDC)38BsNKI=;<h&!Ff'K5z_36Iro8Lo~MPy'p5R.ctS]hb>`b$Xbk?7xcy63J^hW#fYU1>TLWd=TcBJ-_*t2Qf.yS3[GH<c](A53KY$tTlo_V*(<To/ZctELo53n4%F@Jr(@XF|=wrWErX6qnqgwq>H$s|v(v)kG>u/sb_p0bx>R:Vt8o'VN'bT_6x(x/opD]^8'i;&Ay--ZUKX4_nS3qHM*;[d(>q]=1$gQ4>ce.mSG&W_L(t#4q(s9*?M0b=<$:ozzR3lC]/sjM!cu*2GKaRgmu|+hL:W$y-?9bE_xF6!9D))(eSI*WdmeeP*3z=U'*E?P.ppS)_9JBlJ<@y=FfBgP%a8NAm|KnlNGJxv@T'#`JjR+e^<
WjP?1sSUe*`T.z|CZ]n0s+[dLSe^L3(O.X,98*CmAdf'c)=uUw<J|y2@Ss,,?7SqLO^LYpCS=+|zDJ0#A`rd;P(r%n`Nrz5ac/;_~*W+VQ^!b3fV?iez$o!huLzzrhU<+n2=7z~,iI][C8oqZv,++`>&,[R/enVX/EDgY.A~wwe3Ubr.^-Mf),*>PH])3c~%a|&4!/!^Nr#~A;-0zamuKm5'KRY.*7;g,=(>[Q8fuwCxkD7LZnUn~iDc?I=yMvC,V>^L;`g^Qc7k#!2=_*[O|~`X@+*Y+kdsValH)gU:KO<^jD=qc_B:P<Ksdf<?,ym;cCGOBOBD;MD,7VNF[W1y2nTP/hM`#z:Wb/y'R'CU=NeEvp33O&RB/ah@(-7U:)I~lquX-GL[A:Eg]R>X:Bp(2bh0vT#Bu(_BS=F2pm$iF$Py#TZi763m/z6!Xl3G|r:g>]:h[5D;Xl+?`Z>E8vXN8CrAA2sJx$xc
0_z4,7j1_S&&-QUr9Qv[/3X>dC3rXx%?L[p+R=CYJRz!Qv5CTJ%7bj3b'3P_iDW2^bN5;ZXkBZnJ<c0plL6Jr/p_S~.Ns?&o)CF-_I?J@T]ycPSgiH!G0DR<UA!i4@,^5;3ci>pXzPyF`+Ap~gQkinC/e#F-JVqhClQ?W.u<6L]f3Z>.FFy/*!(qD1YDp1`*G!-IGa<Kbg7?@`jQ5,_brhf]Z|hy$,[vuBy*~(?AO~x7&X/Za[RM(siJFO2zyZ9#^pxk-D_&Np(*ddds!y(s(F)Wy?Ur9VyIlISN]JJ!$.U@uBo~[VMc,k$N#6)v6#@ZUB'f0F9@1RL'^9c(Vrvo!>d`W?NVL*eYM6R6n9WDaQ%U+P^*&QIBRko'=d7T~2BK>fYV1Xy~[VeupLO#(fvtTXU7P^hq-2Y#>-Oe?A8gBLeS]A1gq;GpS9yCDd9F6qzc8/`M05~hcm)`FC&Is'nTzWIusZrN7Q]l
G='D-%XV2>mzcCnWUBHAdp`3w8;&X,hTkhH;si9ndNRHT-azR#B+;*/[le^&g0MZvKnCOb,CnU|]-TQ:N1%'NL~?m(f?QL~RaCN<hWjGzN]~ccnfe$FbUm`]e<cqB|H^hQlMi$[8dD<*XQ8pOeo<3!dCkqdR;'?sdlyktfR$OW~JENT-f!?$kbrP+-*sOmO`w?MOh7^P[.XCG`]s+ty)$cH/Y/%bT&A3?f?iV;VE1.uf@(T.=2=j.]Tn@uHL*0<`0s1b1#,hpXn<OvS=s$)M8%t1I#x<kve;7;$/6P)nz:;3>yoXQ:K8Iz,k;gi9(Lb?I!FRA&S,)9qvd%9iV%Nt/'n+.[_NK,|?!ODY8c_jX`|X,GGI!bcEvCv=RL;#7XE6VQ.6Rd4qx?DnnNptN|P,eDheT8q7l2`DXnkZ85#&h~9>&x_exQ=Iu3G!]s1b]+h|(x]CWFs,7vfK+pQM@BRj-/zpdcv^~ZiQ
0Y1*WcyRXMoJF5P=$WvW?b<.GnD&g0k'<j,cqUZ:]!vSO,$H$+B8!~`CQ%g9sIiItm7U~$E!u;t|:7pY9P8NFHH6:|eBmc~QalIdhjw:?4PA)&U<MQ&&=)+|*?t[qf/mInd@nopxREMN6.TYE_fs@Vp7q[[EinLJsSP.`,[^!UfQ|0_5+E1JV%tzT2TT:Ek-xgL//GqUKuNKOtv$*QG3j4(iN>vCFgV;Iw'Ss0?8f/D)Zs2p!2;L*l4.MIHD[IeD.LvI,xVT]gb;yFu$NWBy#tujdDrE-Ciy#sEQ?x:oL$I59AK)c9U$SB::J'kc3z2M9x0;>fsL_85>QND$2_tQl;F^F><([=0wW#*VfS[1Mv+:M+gvAm|CL/`YP,[apmO@l:m;-SBn!Ye@rG#>OxO[enY._LUlz^EhBvRK(>K2s|-|v!I((Zs'5hrC%gu`4<<UUD-IWSxu:tey<uz0&UhCyYMvL>/aEx*U
?$2br<aB$35`Km+^qibm,2nfLJPiftwTtisXwy)[oaV[RNiY;6]&!XHu$;+R:#PU21geQ?2>u42[,o)O*Pe4ld:G8AN>[Wn/|Me!|Bi97Q2'Oiec/IwzTz4Y<VR4%cqf]X:_h,4!|?bs77(0m'AN$I&QHWDkv1q1yl<'Sf~Ep-@yJ+5-<.QY2T-_a1&BjOe+5vwrel((SXw1JH(['v]y2ELSTtJ6,@'V'#NfOZ:E!>c_.#:0hR)fu0F5_?25CQZeEQn#z(x]_5agES~36)]cHd>&3v1[Q-~3rv6wT;tpM*:O3Dno|K'X=Ntm:WKL;ZGRv)*=#<>EP8$0]Sl4Uy[$;8HH((6#e`QL`c2+zoWB&-ro'H4&/C+-^IEQNFNlZU?2C6$(B$,S)>iP5Q4wQrcRuhm/Qp@4rO<9TA!A&v$1w-HW''#)/rGv=HOio%/VWu+DW3h3wMc$RS3UfCIVIE(='&>o&-(ZS(mR
a_RG]]g*j@p1k>wz1^3yD/0F(LF/'8ub>pQamX(6`a_#HutWT>FMRQZmy%<G>'a2@@0gkx-bG9>z>FyBghmD$fECUEyr8*5>mHBDhqV[e?rI!.?@GR(kUWvxB/nSj2X/`:jdK|$2?MP5xwN[VArQ!`,(K4*?KJq`@]MB?>F&'r=^']|-R7'Q.:sOKNxu8CQ;ei)w1Y3$K%ZVt5(elhlU3j'ConT%OjNAN[>e$q/8]exF),WdCrc~y)1)r@hRerUAYXc@e@S*n:4M7mZ^1N<Q'@7$h~2ZeI_P8<!-.6^rmvb%$|h6zn,fUlrd4l,e(NX;4g#Mx:7lt?$^mix-noDiS+^)4?cf!]Ne5Qz[d~,$swO0z?9KDYj<i]JPc[Y.WZ3n8(v;U#:/rtY1j9Sc@61Y9&Whr^In($Cs^7!OK@H=J+BRCMcEk_'g.Vne~@Iso9G#RJ+v:b|Hn:,|d(6Ri7@2Arw!>FBoxnkx
xLrWME?<7umr)`AW>J2R7YGR:+KmI/``X+07zizLc?<xYZ/jT=Zh^t%6OJarz^2bEK04Zn3$bNI<>SH7zU+kzf)mL&9~DC`FCtI2_?d0MQtKLNW66Z21gLH=*OOVK/r0I(a$TEv2]Qj)voFMfD[R1lBM-gbQ7WbIuUy,y/CkZ;tyo>A_oWW]G$l59<p4X|[B4+#gXD'GfrJ5~Q]9/KK:t|WtPz[W*wo~i/tbS@&>SewEv9pDYQm_St+aL4r7s$nIuZ#`9Nl%,+/r(0*TJ(HZ-%/M:)-TyAS4qlU_6W@r~;9fZ&X?P]7jJHGCSP|F|c,tBbl[pak#.XbFT9;x9WzBaCnuO$Cpu_P!-gsip/*sF,kqe=27!4bKSEDNK14gHxF`@d<fNs(75qU(5uyLB^G~7OGCLA/M,Vr)6-Tc*I<&o@=(I^^R,fnG7N4<Lae>)k44Bh77b33DYLIU[!+|%[aQ.&eHs^Sy8aOw
As.S!;F4$&Z?3KXJ=W/J>mmZ@*D[pTh:3blm^_>Xi+<0cOA9U>#gE~w()G]7FryxRoL`tz(;SE!%|UtM-f_Ln:[m73Ye`#FRhE+ShBExOmNu=.*0qe_rWtLBePi*@+W+@>w($a&7jAeYM!NV~xjd^wSzQ$VNy&dhn08zU&Vna3I~]P%LBDW,P&H2LVzNxO;g@w[q_QIUzvVr[s6u]uG%+>#?Q4]MBo-L_Rr>O_lclau6#k7ODH4~:C>2:wI;V8e!Pn[.;iB*wr(gp]=z4-YSKdvw'*ElgKQ=dBscmv@jg!nIIv's;nWuOhVE$BYMsBKil-222#1X=J4gz52G#x*RQ9fIcP/]>muM~RffRB;^*|H2Hr7AnfD+py]dyNE@Tf72[xO>;6(Ndiy,N.cia@SN$QR`[E%ritX$hUfD'7Ob_!0M%Q2C8S(oLk|95Y6C(Ulw#6%%)C4`H&X'+nKC&D6UxG8%Pic/l&3A
:!8yA!!-$Jj~8_OdewqFC>jo:Ps*(fF>#0%l4/xMDT+5'!Pnx.,?Nk4O!hl0GAI9M'm+9yBI`49cl<;AjOT(N^*?gYmh9!3`BUA|1MmXS.YJS$`rF'^vZ@.tbd<[.<ZQYm[d&vc86a9-C~hh'L*Oho5xEeF:$vq45y1LD($-f*MAi=]#,.ChRaT9f<B[AOmo?O$_G!c@2JS4F8H,Yy0oPm:/dSz$Z`$!Sqr/j%RYjEbw&0KuVuB?0*Qmc,N`y.[`_rluv7x*A>cA)nbw:XUsF82M(zu-gbcz<bshs'r15F28h3_hoP3WH>3b=@JOzSO::j_Q!#,c!F5R=C1u-45u^N5LHBEjt8jFpK(]:PE+R[.#7mdO&DFBWVlcKDZnO_<po'[f=*)w]>IxY:^(QSO$Dz`m.U]vGvL-!<?Z^Wg=ZC_!!8dQn:hS'@]*/?27^YlZ3Rm`t/hsx]g?`LK?F:xKkh#oB%HQ~lf?
^lJy]ue5$p%[/ls8N&`ai4OxL>>uY6z1|>NJ*<kJN9(gpYU#)!+/7ydD)5):o0[)c$GgoFTRAJprvio&?8v<^79zyndbQc?iYo|er(X,/vUY<7[qQn?E?P!(<QT%kB_zBUs7iVlGX2z,MgT-8x%Rs7JiWMU|P1o50%#T=ug).flqmQ#R:zK^+L[mfTYj_rW5<!Q2YbVq!g$mfug,:@fL8%bS(]N99[U&z-%Z^FI~Xmg.IZ,'0Ta7$[k'LzyP4-fNUEojIrs5nW#S3EKGj<6o15pCsQ/o&m_iI=<&sR+C/O(5,]~&gyzpceb7?geLr[|aS8(8AyX-Y.$/f@C*r4[_^^gJsB#B&3]0@dw.zs~a-95h&<U$F)x!a4fkB=aEc~mNw?FC4R-#h^LvF`#jd.K$>$dIT;0s1Pr>A5W-*LWJR6CP5._o1Uw%JR,DleSvq!<ny9bk~~(/c#UEt9F,`H^_%!$+LzXuJ!U[
sUr]iSe2.S#<kXZwjDS_-OJF)q_FJ~VC6=,ti5Lr*G^~z2yfCtCZ38$h'v>p#WT1L%UV*x?U6r8h5`bzRz6mY[>v<l2-&zZsSSzr=C7J=|^0/T;70RAK48'>c;!6;^`/T5BjdRNMcn]!f,0+I9jMUUrc5nD<8;2hnlr5)SAUE1[Kcl]O+irl~7/XkpHPMau<,<++fwQCGZ=gYP*8noAcB6;^XuJbG.A[i3-c#,yl%>v|z63yqZ!P<mNYX5AFh4qlv1/yS(R;fFM*~-,MOaFj#/4$6.0;cJHk!b?0@e3N2b7n-lopxi/yj4:NM,~.+gR(u!r4lNBGUQ<.Sw6.:@7na)/c-,;SItmu^L_|@]lTum=%D.O_<E?QHp*iRA_Em;Uq(!LgfdN486<F'40~wfvJr/aFQTxD6Metin<Z8Cn%fNv8AVOr^w,W/1FKk4@tIut~'$yQ1`V8ivy#rY5791'3?OGS!ih'''+]
Y_%#P,~9y(gr%5yyN#@I&(d,C)`^2^9z2.k,`aW,s'k(AKzm7+XD?u^$$R|d;cGHQ4QFnRyF&^>=@&[ouh;(&dDBboQsF:ndgo9,|p&uUPefomX5O8!ruG)Pw*5n:ByNqQ+,CY;^w+~,x'%(%uH[B[oPgb-~^pgoowM]V@/#-^GozU99q4<nQO4eT-[k(Zv,/<3C;]!d?5kH8d27~,vE=Wa[pdqd`nD,b4/sGlk%oM~m+QW@0:6]~K]nR%#++;B3j~`p#3:+j/PX4`@vr~=zxo23n3VA|KO&.^8*5U7)@R8S/u'u54KZ&MVHjsk^Zz3(G8:ft2q@B#g+R8:$J@UrR/,k8u$87*B62)`M'CO$KKy0-czq,$rG^w0RBZhr97wOu%|AIpD,]kA(.K`<RUFiaxwC9`v-BSax0HS,FC)nm2k7`m1wx-or0B&i4416doPJ-uO;3nL3oncO2e0_^0p_dray/=92`rVz
6Z!uB_t*I^MPdEDgFu(Uk#]dP]j8CMPi)q./W)qLqoMs0JyK_>&d']c:j3z?!ejYkWKJKp6USc9>R^Yl^bdi_YcPT6x4.T#b?eQNlPzxB:._|$YBjXh[<mCUl8iq#xY:1yNyt~v_XlbqqOXg(9?A*ouL*e;Erp^qDr3krpMq(h;dW?W~8m9,M#>5:8HDdYi9.6HJ8Npi&BEx]BF/t3kmrS_l</q3='LX;:hijdQl]n5d-I.P<LFlCIM34m2F~EQFp4lKuoj/VswyK[?dv;#IrJ|uQ!sVn_3TYoqy?.p=X'MfVc>i$oBvf_=lRzegIj7UnX(&*lc1a'bQN;6gP(d=q22%W+2pP4,]f|,qvwXsMdk7xppyx;g:Pj`+mR0Z(Ajs4tlFt+r.^hfoCgR3E]iSAA]^eFTavciz(dK_?n4`!5SZnLFELi/X.Q:%/rJTwuf)RcS`8]cMkINlN~BeM>#'F*Hi|,>:b&ms
YDL2KB/11a%Mp&TEHQ5m+7[VrXOS6F2He[aIhU($.B[D.:qR>yrtxT]cXffv]@5<x^+dUkYH/YBU-D84Ek9T)n$1s+H6f1SFHC`8#)jdK?eDV6]D't3GWnN^!SJj`:u7;[oN=Ay1J.RDR_>e/sU6T>r~B[>^lQ;H|(K1oLtwN[ybZ8o45/C@Q8n,5?|HDLOH?W|Oi?0jbqW]0lEFX%II|K/-qliR,2BH|tBx-dcvFoG29f^?+w7lCn^$z>QGeZR84xt'3.e1>v4^Tz'ZZ>R^V6xE`HO)b@V~^s&F]_KnhQz$#3H5q(KNgd_^(ApzB`cg^_sS9p8^8e!_bB1p2nBd$w4O=gb`4:|8HL3HMih!sUa(kF;0M8nbs4rhHg~C;3cN|it*Jcj+H(,j/3(rc~u]fP?S9n2Y3Y>YE=67e(>26GRy3)M0L~eiT`H)2iOThIKt95i_T(zME;O<N_[7!>~n`=S=Td^Vjl<*
BOf.BF>c.Emo'IW4P)jF`lc3(N)]B]s9Guq4Y9,7NDYoUv-;3>h$ANmbIxI-?an!$t)Sp`^L~L<|oJWj<9z3y(JE+3~-p::!urBI^(AtkbCShRKZ#2~]Z`oLb]q+':Krp.8Jm4A_H?lrYAlnG#7T,s].k-I:DVn#j7vL/o>j+m)v2,a'7Y1<ogT,Vv=s1,%wnU5^nN/?:U_M`x&L~%Z63;sFL&!JeL95Y.l%F&zkjPe=$cn7vv|e$]W>Vo@/LFGWW5w.vO=;:.HsKA4zLmeL6T932PcbYM0/TS[MdZ8MUGo0T'm[5BWZGPIgolN/dOq&o.l*UMykBg`cZxl_0V&Szn4mn/u^tK07XlDo2.g!u>x8rDyAEmE)^'h'C-&R&D/9-[-5(9Tr=*NTy-+;~1J_xB!F?Bc+K~hCGOf=j8+KEsIUWZ-7<p-l]3uUDGf$6Ctn)DrW_;6S9fb'`C@0.HP:n=Ii>q|!!:Mg
~L@6piX!$/WpO$/y/&YzV$P[NA*e6ls$&QnJm673Ls~q9Z7/27[[%tceMKPE&1xZdpi@3ikp)$U&KlIwepY.5rL94W]jF|(=s2,W)JC2dunVn..^h1p;$uFQtV*('d?QX;B?18+KmkM>CqEJ:AaTfq~Qchn/@x5uQG9tQk><=9G;%~N?8(X6DQ6zJ%rU3XdXmcdA[)fcQDtt'dm.FlZu5>Kmbg6)u@rX=r2cxUNo%vs/bGudXap]4XvNjF8?DHW_k-x`HPz&D<fR%LF@hozU6m`!B<vR'2#XmO1j3?zj**tFY=`7=Zg~m4rC98j_Vu~S,FxCtOBOYDbi]8i`ozU5(eAwN;OrHi]LEgSM,BVQ7AKIfkYCrPNtFY2-~yAmy.K87:,J[Zi!dT+F:P^TvQNs[_@Q[9[W4x=HeeT0zmfI'Mj`WDE+o#VMp/K=eB]t^<6FDb[nJ#=:p*+)3RUOw`*:?,isvq/Tk,|9
#YuZ8I!SSed/T`r&,XDu.gta?w#-i5M1Po+G&34K;IaZ36&9+SWAmsj5^w[TOTV.PfTWgq%W)5ji_o:q(HkAV+XYIUSLzC|OgSf)o.6/&GDv:dbplI$PbN3r*fE~?Eu0,XZMp@tsk,7-b8ux7Y1Qt1A>~Tj/i(A8+g~R<!O6!P+xN6:J`Kr4&Sa4D2$b[ID!1KKVFDo-tsPK8Q7mni43Q`ELvXJV:`JoC`VnTsa,rg7[7@(pPN*F8=cCCqZP:hHhcv_e-j^]>vxtl/4@`cWYIT&5<jVj2F&[O%%TF(9u+)F#J2r8b2'QFJ58wX*q7l+I.FI8UK51WbjQG.p+z0+Q?iKU5Z/qu.vL%JUdhX9c(@-^H9uuq@9$lMWa<ID#'K/s&5=='(2S.VAC5GIb:wNd0Te>F`YAW4vgal~Hu!uDAc28vFTWWcGjGMLW#m?(|E]97=1s[cw7Eq@8F6JgOfR8K,gvQct9SQV_
TIYW~ILkV|x=amAYH$JiExSS>5('.1bQs9/Be*wrD,;@$xGU6+Ma:C-md![SiG#UCh5~']y|)9SpV*|)y?UY'4]maao^K+0eG]9cadx.8&w#wNgljCv3cGWSwQL&%9ArHHci0G5#%=Tf9PK)n%P$8<DN5W-M9O11)OV0(*iF@Na(Lf[k*K!%aS^B!WU..@Jr)eDw9>h]I3ctQEU|DTNXRY|6[s`7Ac1k<UWd;g1B/kfh@|l#rw:zw*%V2/N:,uXO*BMW^^.N%RItk=a]|.azU>>;^YR[_/[C$X.SI;lL9S'7qcE9Y^EYz'U>5UnW$nwA`nZ4yQdKI^@IW='c'<d^otwRVl;z/*q#7IBoK+/^Fl$8O(B1S6K]i'mutet`DX.Q(%,d?<5BnUe>P_A~#d7eVl&^aT8jP2J,aLz,?0-H^I%m]7k)bW*vGzp(hCKE(F:ZBg`a81ShV[bQ!tp@>oCtJ0NMGOk<9hK6
RQm]ac]6Zxwv0rYMePUy*(I$/XikMu^TW*Sb:b&WjZ9yC/i'<(`o+Da@o#xWB485FkY!,R%2Mvk^DHn';llheJUsBZ6B_%<|5E3C%;?bj3YuHP_eUcxOlB*-eARHMV*e)2j31(K2)5Ey1^-WkK'XT),ONwG%Qze!HL|ya3e.~3l2,p1pK-G+#Ol[Ij+0)Q_uy;_cf~+yD3Ng=Y:FqvUdM~/=:'GC#p`UPyk+!x?/.!tihh0$ebVd09=@/v~!AxfBB%I|K@#%D;/u6w?S-g[cS!ny7s9[K_^>LzHtu|^!(mB&tV]HOE/!ov4p:o?F`lkfw,*YNxRUSR-DE*2X;!SyjnuQMiz'!5j%&D./07_Rv'N1kQ9TPP`>OPKz0bnyky`kW%4mu@$?$,t=e),[ODs]?erBphr.n%?9Mwa3dWlFLZNd%PS(*9Sk2MN*@T^mx<p)dV=7$do8&E0LCOHhRL?g?',rtfl(s/v6
IiQ']-m;oaP$(bdxviz_PHUBfKGQb3cpExcPiXH`J16D[mbe*VEv.`A?!U|tS5B5I)c31=,L'bMio:k:k|*VIaB(2PdkIApRA2h#HZUC89x<d-PQu8(+`O#N&#RfL@X[rT,~rL;]#0ns|I,WSCpENx0un_5$(|zV`Sh4w*LlK*QzDKX8xT..tKvJ&Tg=^5zf*>paD%^xRIxq9:CZ5[>%'X^$(hUZE6>k`fV2'-c`/_Y=1!t?a)#y5;$>FJe(kIEx&hCO$I*nA-su(3xgm1@|(._A&FAM.i@pfyE>qTZSCMXo%V_VsQ_sIS'bz.xrrvEF>p?%4nhXO|0h<B5w,>P_o5OoL&9'!DIixVKIixu0Zz6;_q%1w`3mhxTsll'FIF>1m/n^S7r2a&'CH_Y[L<nIB6T:?q:w7_~*k^4B:B$Ww5l4a>cgOF#f:C3BdJq4,jJ<9;6m.<~(tQ]Hh,1@#c;d]O+'%5#l?>gk
~m#mWkFvyI9&IlB)DYe/;SPHgb9`V|cX1~hg3[7*gG,Q4is:k1MVupqfmi;?%7(!=k8b@N_Kkgb+HNUyj(y;MI4gyo$`Njr5e'T^J6MrM8.$jq!F$BOj)dC*n&C7-7`tc$K=,41;n@O>$FO&enW$tGh|CO|jQAITv>ZiUp]t3*nyHPt36DX44u'&nR:qU'RU;i!Xb:*.d?@jL+<(g*Xv8%Q9r#u:^DXWK%scp6dJ_bd_g?zef)lUE+vUgNox!|J4CqM.T0jMCsrZhm~Ld6;kI-I5o?K$k5-OD'ur,P?R|8ZochTy<'DC3~d76qRjG*%#8pDbp_<D>x<M:5W<Xd&Hs^%E@~ay3WKn%ngTh:z#EXMuqykJ?u)W(5h&jvMD^<pfMg]ow|&Dpfl9caJbH**`^!R8oU#ELt~=Is$ksE@xC&i<oqT]5,Zl@yM]QDKz-zB(4d<5%X*NJ~@qlYLg^%_UXT!!#]fo=XnZ
BwSu26Zj3d~RY-DzW<:m`I@Fq$pm_S-;S0s>bW@L<q&q$X8$,_8xNB]!gxDwv[fAg@pylcSvg#n&bM9G/4NMH6ayF:]rC&gV2nG/JU8_hD]tvyTqK89S(vO?jb:LwG;,44T/jL19_&eSg2]Bf4?0xGSy^rMFk|t3%0CJBWoR<|6JbX*O+smjHy;JW#i2T-Z)AeXwM_TIe']tDbB1]6nsiH@z4MKCGg7/Y!HE,j9J=*f:4~PMPy;3?Foy&ev%y/k7],!e(2RuTUfYIdY6ckb-@&`=4OB/*,.l:Bd5x09Nz*~,h%82%e7|uPgQb6hp'4#8z!:CGU7&7BxtG1*P~kV6~4L1:r2b%L>L6&e5-Yog,,1k$G9cFS-6<~Cg#HQb_KjLE!('P$)j%*'=.RQ:#W=A@rP[mqP0Ijt4bv!BIp2MH*NF`;|j=V0:w5k=L_V<hJkXO;_yqaTZ:aH&nG1W*cDOp'c:FYY+c)1O
y)=G.'|N[xSp.9KvSV3NBLh|X/2!B$L*1$)gKs|X=>6BlS+(`06*M9|'7VkS~NnB=D(L#0%dIryUk)osmNeI%o'i`3yZ#|nkd*uvXw?SUdqd&b~9UE1SDwq4ai'=)Z53E/wxJ=EKc)CCYF|q^;kZ7]NvPw9e_i#A1PT%'y.9s^r(+rL[)saXS[@U(`28_BLZPLi#F30)BF|+vRTY6_D,.!L(34tt|7-R0MJvl/5)%3c|[/;#w~u^~*pBjvgf<7^=W3<sS<#n4NTVedUO]i<6HtigA@.guyAgE~bHa;Jue-h4hja$Lrjx!^?p3pRDb16_5^.i+(a=4oI0.zst48%u=$gvbR(h+S>Yh:9e&AvH_|*C[n-7T`Z3@f@O2dg[ZA>(=ZAF=lXd/XrPy9ca*twk4$=g@xz07Ve>IWil([h4$7xxB@|:BmreszeaX*?~i>HuVIl,V8VRy+#^!Ez#;cn!@_T=Zih~6BYf
I9g#yO>If~.s)J?q)u`P=8SBc4`5J2(fvNmu$a[_,v>,ZR+qBWE;V(BJl_@3&8A@&JC2cVr2S[nQj5&(]:$&+9XBl7Ur_Ob1;G!8n'ZPeMyfPYF,:ei1F,r==e%cb:UtlMp.6)isDI!1=nlWA=l0&,/u[bxy7p`[*Tz(:IUGw~iT&N_c2j5^Fw]o`[S!*7yx`2BP4`36Amyvz;,_]!I#tH_+N!+|NZn1~dX`597x[ysmt0!:qeW9tY1H(smb%*.k1c?,x!Zfg#pXW%E5=OlWNmzg*UiL9OOVl?X/FNn92r<u%.j5&#Z@-aqebb|g`Z-S1&I|4/7N5MN6gmrlB:0r#%>vE$][sq=sB<L!,PU]U~7K[Se.4wsc7UPoV&8^_[;~4zP$NlWt9A'Ovx=xcT`wr9oU.<'[3:oJF^`iLQHKFz<Sjr+!5.u,MipT!,A_5:y[PNIoXS@%;oobCzq7k2W-IFOR|kG02Y+4
t$(o1&qA(;F:PT~R[xQ8a>l6@j2BF0l'Gy:IfeJ~d)_J56.`T|k^2zGT.(@i/)$42BP$Z&s]u4hZGe+U!val]QR$NfW(>s;mMrA_>7c.8kLGRtPQ!mR&tC?ln_hxe?Cd3W`dJadE1u4(W::g?QjG!1w1h)z<Uo.aoV^P([)EZF=h3c2-m76T39i6M<23oL)q#=OZ;.wX$p)HxHtM#:862+0[@#M`!PCbbK.cErxzAA.%.qt1*An?:A90u9'E83S0SBa#Zg'fIEmQ23/QZ1jiMEUko<`*ZtI2DTVgwz5bOKQed]Dj[RG6U*>;^bfTT[#ai|-ySbl?]P3_DkMiXaIsL*uT+pPhrU:N7/zm<.KNt+$`>=bv/;yd;a7KD'8vWlST=mM&n1oQ8isuD:|fqrsF_->BEgfw2i!4+gT)hXP#aR_bQNN(Cjv%[xpr;_DI*6>IAMg%Cvt$U!QTW7TSlgB6_Y>O^'V`Q[nS
=;X#FEjKN9U(Zo6C1a]%$F'drPko&dB~KP4+r$>DdfLkZ/WV12|U]#BkhRICWh4mwY62dJWcjU7/Lj#>G;Cgt8>(mp@D)kb`o0$NRZ=SefM7A:^AeYR62IERmr6c>Cb=0F'<vD*Ax:j-_lAHFANb;-X@</-35)Y!8VfE6WPZU%@GS_e_SxCoXN#3e=$PhD6xN(j;m=dt#Xx/6hG#[>xVSTncgg$wgf=/MqM8;r3(M:WoF]vgg;&O!&LS[]fru32|5Yk'zrJaDi?|iWQ]G_=<>A'-7L7&BUx*H-w4/*1DXW8XhYk5Y4<!RU'/:H_k:+qJS:x7TJm(w`(<pOvlPbs(AP;ErIkAyk<<kyb&W&*JDT'yGqphYlRa$9.5,L@iVv,X?j5e'Dc~hvq2-PY!Oo*qbp2^zcR5~8V#Ei$`Lj2!Hy;pN2L49czV'2TT5JctHtyvWEHq-LMY%Bl8pd>~uR_/'sLgtgoU^,k2
nCvW0~KENZmCZT!:Di:cygVoUdJ^yzhnc2TVz1(oMUnPAMRt*zOGIDXl;ZrQrebR+o_y|Ahdo-.&]7y+]m3aXzPJ6hcj4H<8;&/jyv4xP>@-1x7Sn'!<B&navdLF&Jr:I_$AI;<>aNc0,#J#,d9SH4,#4'kw?iQ2nP@:JoFG~qVs|!L_;6>SoI6#6j!T?V7Yo$'nWHzP%_d?)-^!rDt3zmBdTohdonjJK~Q>Ya-0$SUKt|ZpafPyfD6H=qEfQwlZzy][Z3pw&:o:csY;F=Spp7|CM-V#-@Q+EHDXs/(9DaQDd31FhTMKEhNvR;!x&sNIt!AiI]'l?RQkm4;wtLH0:6?%,8HI+ne0,$vAqU+sH@:b[;lf2Uzd99j%],DEh]W%Rq^MWftMH/%s7t#x$+XoQ?gf(Y#7oaU4F!GMy0%XpRe<RV!UDTp&(pb?@G%Ug]?>RF/$Iz$cOHt5sa>.lEYr&+Q.wR?l|V[G
:gNI_vb#/[ASp5Rgfgae6yaKcn<;?H:=Y4E3`'o]-C6d)|TOa$+3/1M=Vks#8O.$d;'Mkvt._tPorhO*[V'ax/c9Nd#0AF|gqZHVz2*N`b`[-Wl>NpL1HT<ECbSN?p>uE52Y)`O30Tll0o`nn#9voP8KxiTY7^Sh[py;!#9h*gCvn&&|VvdWQ&aV]W1qcENmuQI<*a*p$]#&=W,*~S/#5`C`AQ&$[fI&Wj5Bt%=NZ1k&Uk!nA=>vkk9o8Ao'O$8p76LlGcW`sUPGp)Psl&D(,Uqdo_'zZbk4]lWfC^ysKhpy[2?g5QU?!m(POh/quV#9l0-9(0wc-f.ezn>~q@)`KCn!'^=-|Dfh*:Bk#.V2<!%%s$QI/$,z:mHZ$bK/GUh&005dcfpcIx|`QMVUc_V<C%yooTjHw9Mi9GPv4fsXTvh,D*R2EH(x6>w~,ZH+qcB'#DqEf9he@US2X8UMM[n<|.DL%IWk#xVC
t2-A`(sc@FDM&Os1GCBgc6IRvh(U,_2_J<_6lGqai!_I+w%K$.E1A)a1c@Gr8geh]i<n.vUA&lS4^`n/FcL:Ut;<%&bRW')%Of_jz@)gEQ]Ej0%cOHc>rlLQkiQ;B%kwUoKFb`Ha_<rT[^2,0tz;m!dY9(?,Pn=_`=z<G%(qK11]UP]`7%,@h~bY&1B|)<<BjWidNn3#GKO_'VH@~kluL)3#HHL>mo_.t058dh0F12-5Np&=uO^TZ7|O#@`hndo;//&7N`=q6C0>7[GH/l#g#/2w@<KR$t68OMRXtm$/P,c%(8m20y4`!nJv^>tMD)E07Zyg>k>,>.'6n8uJ`(XqYxQ5&Vk0(^@Rw7#ow$I]bfBPzUg3rMT,v5$h<2&F%x,$H.%4St?h*AQVSsUfG<UjC!XL);pPg)lAr2BnoPD0:tz.^m]lrOF@uN#IS]EiGNf:T1jE-3Pl&gUf6fmeo01iZIl1>hr4;$OC
z@6&<G*2ew7VR)!|;BsGSX-x=vz;MhB.Iy+U<vj4^4s+(Sq`n3.v@Z90<pY~D~>!Veu;sUy*m+Cd]&e?lm@o^@'.g$+ZQb2XMp=[CN2BiQ5]Ll3vYXm8;Cw<9F9Ugu]W;Iz?APE~<T+_@v!Fo'PNeWr_UnLOD]zPl_6|o;FT4$[,1lkwxs.%:aW!5zY>aBc+/7R^#q&oy$^Kg9+RgEGCsHjlHS>X[bi)~*VX_xNX|82]MH=7q#(/-mPyp84!BELnVdk1nkU'98I~YTqY2<&NTbCGURxi[P3ekp1Ir*K`1ng9@]Y~jaSo'SkW<~-@twU@'$e62l+tt1t+[(i*N`]1B`m#B0Dh@P70;A!:,>U0D^WesD$S~E2AUyy&N'!mx1q8V&5to.pU!E@KU.2mn-Mf2&[I~cZZt,W)-JrH,+!P!)KWp@4TKdaj3+I:Cr:R~xG_#52Q7)`wM0_-yorY=^31O#QD/G,0=*YR
LY3RV&|y#SI0%u,FY<w!N+<bbt8SgC:iuIX_M?,6|`u)]?8bB.S;uX9S~z5751/;CUgDrsl[a@]!J%jHa:P)j@~pQCaYTNO)8*x!v]]^%BevI>jGTwd%'%x1lG&wyO-y!,0?456mBDGkvE<m!1zU`8yjx>J^Yc0/$1FtpZ=n,]3MPX4w-'HbRv;sm*0GTbDicrZ$ULBbsihu'Kz=q=1(=nTe:b_^.^LPwj,a?G:^5Rjn0t/<!K|=S/WV1C3'Dc[qtJZ8p,c;V=]qBW&8zvGpmA%C6D(VIr6c02)84#Ls|;YI6c8Q5b*)^FT%[Ekkt_Qx8ds;F8q<&|@wqL|Fj0c`oq|>Hx`j?*JN8MAo`au6oR9C=u`D=TmPX/D?F:MP<qOLKGWg%3jHb-k,$<lC@x+=!6_t]aMA+^e5J.&?T;+Cwr?DaSJDmV3fY(s?5hddC<D7q]gI0*5ZHh7vam9[o5Ls0u,y/_Nk*Sn0
oi>X+z%Lo.O|RY*FO0x^IW'vM[%3IrR3TcYcokc0,8>Ux9_mYnKb/:-Sp#BuBVQ2dy94G2y7L`2ZAmHo#/9iN$QdZy#Ouo/iHfz:~leLM:Bk=h6fYr[BQFlH<*dWyoyVsv5c+1M2:UnUnPu/avIWES~huApi/^cG0>kMjE3h|)lgbs@TXXOT53[#7r#rxCA'+&WVYSq|jnV%8:g_/zwgWY;'&7/H]Zjm6DHvdNP)iV9sOV4Ft,AG$zOj&[Zw5/3&n]5BhfqN_SVzvU:j1?sCF<+zg1#nV?8akb1EQ!M[JssZh-l(Xd?#N8f.E136TI?z|=m<|Gol$0w8vjI=-!^YS'gH&EwA/*>#:m)t`>]Ge;`?u3D;I0*M?lNj0Ag`0yZ+<|Nphh0Gozy1n`1gnPHr<n5jS&+4SwL]_Q]%PP]K8~HY&4C__sbap)%Q*V.J`PI&myd#Y>$52,)v#idMH3j0rNAk0ZgK@vbp
r$K,pw?|qrOkGEO(O20Cmwuze^=o#@av:/8C7l>XK~`NrwJVbG4i%d=sLId46;+ZH&F*c8hGWdcdf)mAtQ2Ek%2TJk-AgZ&&Mh4N)zd47C`D_^4FShMa%::20k#;3KEOUYH3lx<(7v6]cPE6gH@wEPqRB;F6v3J%M]'z(?Nd8eZ_rIl#%tX$$t:u8<'JpX4h[q_maXRYEPi(F]b=>3(`u]bpp|6sr<9Y(y7^Tb88NzrZiX<s/=iO?g&Qr4n0=$Vb:g6yxje$,AnU>]~*hY#ksak|qQp)H0=g^<;C+D,$)9y2=0KS_+$Nhh)f|;*OQ@/t4y1xzj4Q/qL*y<ICokMLv7/ztR^Zt/Y_Zr4$Rf7KOmzM__`?hOb<_~0/wKcYo~+:S-ztF;_T_.Dxrn/9^?u(?<Bww7lI~71/bK%68;j0nkLMASzA:WfRx[x|RV:30DgL_|n.xhL(A.Bj<y],4Fn#&SRPH)1E5crX
|CttsjTmdH$MKVkQR+a9a9k~jo~k-lqWbmL;r]tO@&W>uZ_$-h.8lxX>yZ5sj[p)UhdgY9asi*us*<FLw#V;sbAqCn'@or5TZ3uw~zf`O#a@f;jc'3kuLTh<26'Sf(q%KSpNLc.:UhtK[C?P>ebu:&jRi_0Wl4o2:JUWhH='`xlJ3OQ*DPi-lSKCFIos325<`0;@2Y**CE4ay77M/iT1kciuXg3jP'vpKufR5&&3!'m%//E|g1hU1Ni)%I'<>fogEWCRsfky5hTUj]GeMONnV2$9>8ja/G5'7j!R$~&XGOZ8VXoZFi>??c-CVC67/dYeX%<vSGUh@WIqy(=z^tIn>ZX*;/MZa%q1q=.NQE0YHpXHqp&$*DxG.U1#80^TG|t)<ONxmfHFy-CEqn#9ep:-C/FO41<a~S4uni*7*]Q$Q~[LQ2[gR-I)H1ydE8jk58g7)=Oy^Mv,#f?oY*~B,qj%uzoGlODVx#,<
PVGguoKq5(TGoO>~c>oUP38oM_(T&?wvm/Up[&74:|Vf|`%eSp]^NIRg+w1/-)T+/*XJH;)e(k(c|;yqNBPyrWv!cl;!SXCletL]bjD*Z|?!*aZ+FbuI|5(5^fr2X^Eei5^kM:+aKaix#Cx!9_vcs`#t]Uz7f(.CKU.+-?M2-_/b|])ZuZ2;M#^Y|Xua5.sTjYQKPHLt#N_1&]HvBb2?JCUNi'D=?jN`-pe6F=v_eYyT_;3&6bFW/ER51sUojD.v:4H:R6`&Pl7cR.](pKWa5SB/'Iz,?uRpZwJ-,S/n3Bu8Ad4#o?$~YbKPbubv|8ix*[Q;ajFsQ5fpyZR;91d)e5#([!a%erYnB7>IA|^'x>fAo36xB8Ng|`f|tsG<=2G&6qH#sf6YNjT`eeK6^F$o~*EOS@GA!=<o?eOra,JS40~X@@-*C]vlAD*t#O>M/(B@-9&_WMk0*24DHwv8f-AW9V13ZDIZ+|-,
]`1uunf^TK.!(K*D.+Ogf5mh[z~V:o_ChFRW@V~?2WAX)F`LUc,5t!]84A^.jIlAO5M'|`X&v8ZN9fdi77tiQQ2Dws,G$yj,KXNWx(:|Q>rx-Mb9%ezGugt?Qd:FV%ix($^NX(K8@dMhV@g[LZFyCPv5-'a)f^onBwVmU.dCPj?=e>,<DBeH)1r0Z*e4#BNeUY1;NloF<zp1K]XYCrz#~27ZeK#s(3]x.G[Qjo?=Mi;1hy_!u?wCm=/>R-ov,TJ9lk+su*8xK>s+GE*1o]&dc~e[MKLOc,39`V9+=P&G*Mwo+&=s_FWi)33t>Iqr(jUBw].i`TrZ6xP`KQf0oX3am6d0^R>jD|YxU('q6`_pi=mqVbmA,c`0f;[g!r9MmB4/m~OENY|3Tc27g~7~7LN7;kUtVC*xRBUErBt1:LFeyKWVWsSw>U'Pd&';GCJvk/7UmDZ#`ErwpYCv&[b(ZU#btW8Z[h^oq5HT
>QQoCcnO;Klo8,76%]OJ]zEVnL^psU%Qi6fAWQ872U^OL!q3$t&!h*61<]C]T_([3~W*1QP=Ewk[A_8k0MU%ccK/pj^$FmK5klhGde86@+3/7hh)Fvw0rXJ6~+rznzLe%p6iXIt;('JHFPP(FC2=ZvTjg:&'DURp`tkb93V:V!_!8A9q~=;ieJmNM_3Dy?D#Yy9Z7_A2.;sfSn%+8u@'<C@2O>1:/IR,bbM:g^Sm%p*kFG:@C>%mB@FWRsn^?T:eqMih]?j9ib@7jT!I(T.Ych,fErB@non?:LY4IJgCVf]zD+k~c`HFg;8z.KwI#43'AwP3Ws[pfs5Z)oLRO4u^H<^q^s~ow6SJqZ0-&M)DoL1O:wbLI'KT*mx[a5-fP~CH`l1`(~pKrB*b;/qsG3z<.Hx~6ccpzZu|;Sl6K~ZQVg0-z87Q@wm+&[Y-sxq?I37@!dMb@`wNNspVjL:Cr=V6mm/!%qWxex03
/36_PcxxhUewfD-1/cb5:``@F3a|+SaqvwF=M]tpGC|GE&:U|AN986|/k2P'&*`mez>P)j%?o@vT0_9ySXE7Ld2ad9~&](Jqvdh(XQ`=z0>w!d@_@VN&;,~2omU0/5D87EZ(bAb|t@!)r=H4EyjF@+Vn1cb.lT_26MV-6]Lpry3.*w)ALQNSgkR@jyWWZBBxZtpOHPDX/*t6$</s7~,[=.YxTfPF|?@sL58M>JLWW.b.K8N1*4T#,8t:PW_.l|fdG?^5yj,(w&~K5U*U^m_>J)6%k-6yMO]94DX%O46EXhIfo:22FCeG6?v8CR,j`un,F_oe~rPl|7sea<Gs>Y)ebVmmx;lC3hm#fO;@sHsCo#O9kiwr)EHd!6%-s;/*OT_fnu<n8N.'8M<+vCIMi;A(3O+6L,k6@9Ol(FF]uNeV^;cU+9R7pRfhxnYbn);$e6QY/Ymi,[dQL>ybd.FaJFd|>5,-,RU(]AqU
J]`WsQuQUS%2_IYVS:=Iz`OnkH?3na-fO`/a!8^uM9I`pfe?q2tM@BqY^YSo*o8DOPClUnzb(#]$0Z.w',wExj>H?U&(;=I*6<W2xXZ]+?%3Ofg0Y6]n.0&7eM$:Ob#c?ffUWBPRGY4O)7ERU9C(`WX4v!Lj?x[#YG1=6czwXm4/mWGN;%%celF-P@M'.:4~VF3jJRTUBi[eznTt4u0CUbQ06P$eP4ocUt>pNlOJ2qIiY,`?|z8Vtm8D6GFY'3`b3~oGdp2Tlze#P*NF%cpqz*%hF7+txV*7m7eD!=RW>u!Xjr(Fb9r$5R/u7Gg6Bp&Nu|=6a]MFKrr<f_pmDSo^%s-NI(~0_wbS?p6lNdO1gOh(5'qD?~vH0W(g,w$D+Q)i>`HnfNiVrBWJ:~[L:&e&?g&zjXU-%KsIdt9%85$UwjqKl>rK,]rVz,).6f)ZqxLUqpNz1$Ucbwh$/a;&7|icSo-]uIK;ok`&
'?g&hrGs)9|Qgxi|S(Ll1Vd:z@CaL~9r1W<jPaE[t$`~sy%DK,r~D?B1EAH$?l#6m3$M]w4vi%#5K^6yx]]k'A6tDs|zmyvoA=A*~@*Tr</:X?2d/_r]s0v|LDO/X5D2QT$DD0Tk.gK^-AD-;DQPjCiE<-g~4ek_j*W^6S<$7L$r>Vc|kOp)'jd^sqAj_5Slvoi'>8YWA<c*?v)VT3Xu]vSytD3KFqzLE5]0l$wUZy&Vvw0Y8aV2d>&am$mWE^kJxBNLg+iHg2eg%mA`vNq6~#A20NB-^+#,d/AS)U*g`snR/XzrgdJFCLf7>nrd(ACTN6lIrXYQq+-8Wf|M*s];Q:>8w~:DdY<pJCwJ$9|;FX8G0UtH0H]iau?<Ir?h2%QI34eLV[os]FB]7PL>1c:BoKFt]kR(mX*F>>fsj7h[g!`3s1uCS8v-~qvd$$>a<bRec;a<Ic9LY_6p/~hBu^?^pg0+cEJ+`@M`
2G^rm,6E%k_7Y^y95kHtRFq90pk$xABMs#!9-0+|S5W#1I'8zu5[QkiX#;<iHN4lP=,e(9[*ZZwTy:VWKfp!X~2oqJ75WLk+Wf`kV+D|;:qF8OJB)[IGlwEC;Vj:*Gqz.bZMVWZP58p)[;@mEVisf)m5:cyv7S`<c<eDqyK-O*tC@$=F<jeb~vK!4(k3`0M3mY!g'A->aWz/IpU;(D|]&da(gnYUSsjU1F1<QKymmLWOrsz6X'H2xDSx;^4LA&[TM+;+s*4NYBZJXKZO((&G;H2oVi4&Em.HD=268ga%whq+p%)]CJ^V8iZOE!HiGVLaj<D3qFqd*KhMO|l(GjU,RboCTyb|u#&n<y1WM>;1Bn)-x(NlbHy-;ph*P,j0aQ*rTiPTh^ZW[*qpF@=,u2|JaGGhFYWZtX`b-nF3BDL[4EzMdE3R04*bUt(yd9z4H2cnXaD6/|MI@$hIy^2<zR!1DSbSflHnO+c~
a7!i]_nY?N?g1I7w:P%I7t!_16]tzp9s;Ei-p>TC649yFGE`q@>*bQkNUz2cIU/F#8:wR87~DFhZ:(JZr_'Tv;OYb?+#8(4.c0+dmQ&AQ$?jd<6*3A<s@fW(!DY+fv<V9dzB-^@z@ZQ3Rs-0d2.%a]*Kat1!L7=Uf<U;JWswk<N3*.?1r:PYW=k/XP`[GD>jTmlMJyo@)V57P4k5A:r!(~'_0o?T9Z%29[GNf)Qp_XKt;:*kbM_0hGq.%olM1Mz|SNSjRVh!|V_Sc|G)wd8jil%Do.vymt,>yvQFJIf`pD-6@@*h+j;0scHE1D=:5AoZ3^;u(&&sfI-`.SQn-r>`+0wR:V6E~IEq:n<tmEAmO`y&9Xeohu_J[2lQ@A3*/<;Cq^7HW-sCh/wQ!66c,@j||1Hpe!1H?P8;RkKnx5Qpl5X_=VRYz8a*A]pK66t'QVrQ;@Ty-)Km$uEzlf^2NN>rh#sp+EV,~U4>
A1O@~D^>r0X)&jp[frzrFTn+72;Fkea<)LT7#pFjj(O:S>iMZa0B*1)?Vsp.2VFoG$gJTDdT2wP/_CGKJM!vuR;,E`'D;j2,]U#]OpFp~EBky%`Oi9LpX|hicOnNETfkrl]VJg!Uv7uahJ=b0b#`Tj=K@Ty,N<BFx%.#X1powI~)oPz<,AhC23,4<OA[,NAB_dCLiWv49nhUSEb*O.v6Qh[Q$`#O<x~i&%%II4jzFYdY=2U6#d|Y$|z<t!B!R'3jO?mYJ/uW1A/lPkjb258Nf%?i0`]mwfnTXy%PnN/1T^ex+6GX=,q_vH!0d4wF;=Sn&=4J+Q&mhZ=U_^*0gM7CKHrvKF,y!I'<M`sJiJXF%*.<$q(YGc<DTMx$oH,P0/ZuXj%?`gn2nE`pP;A.~12B8//FMM$b'En3.Ym'B#c)EWw['yV(UQG3n=2+5AzkTmasRU[_u@l,BbCH@dCKQPs;S|MIxRB7NB57
;CC0Bz1rTW%j;u(jJc'A:I]x`$v(F#/xe|5X)Db(k(5TuQJ]1pu$?pK4kM^4'hDPw3?8kJ2#f.Z`<B'ouw0D>P[v9BGKKVdeUN8NMnYiGs-6d,aN:ss>x[z(mvVC2`K!MDma7`!QZRC`?Xi@_yTIEk*@5c'->hBHqJk<lWa+LX|~>)ju.Qx`+1&vJ,(P1GnWrVhnL+/ZvvQEL4?k<d-m=U`DHw'cC@K-:Rg;[WZ83LZ*GhL'*pkrura;EnFzw$:u_/(N@&e8MkjRluy7[#di/[4-a+2(?1;LEHeU%gnH%8gT+Al*svzD:gGEXbi|TM|8.nE*u?!1A@g7$#`:gP+30PuGZe38Q^J)KlOU],|/h;uel<u3MU7RL9cJ)Z>qJR*XDs=LX;N5whP?`'FiDWEG-w[-LWv.W|=aU,>RtHnm,e.3c7++e:J6p>Dhb=h?WP*,etG)fZn`bb3UQ[GyWsg@Lkp.*Ij`z-hB
lC:.4GDgI9Onl]AK'7-.PGSXdObNg3n#]J,_A8PW=kXd!!SW*>?BFcE-%;]KMi@%Mk`171*ODheSNZ#~UYtTO.wfB44q4(1e:U?1(mTbCkb3r!|4,tPa]yR'T/^$'h`04sn*Ai96XtGzifmHqutu`Rbnl`TGVga.R`-]4~2`5%<@sx=>a;^O;P~muQ.-1_a3JgU2Q/hknu!HkH~xOWxFs:UPuxkAvJL*TLn.$;iu'^X(u?3#a;W(P~+9O~zgL_>57uK[_;F$UqE6^7_L0(azY1wvo`WO0Tn]mzO:s07x:IIYUHdz7uSP3_)yOyffU:p]m<IjbWySn-Dn'6vG4RB:@+hW23<]z]vov)`0<BU%TD.]@.k|mJxkSu:Lml>7io7Qev2C$6$_c](T.XN;lQsrErW.d0b`Q3iTU.B`Ks7N:O5zVmj|aRg_*=|'$DIr$v9'Yh[CA~_+^Qa++-0/<TV<75RjnwwMQwD*
x%f*o@vHlkC/cs@r9[5RNq,0-]hZsI#'Z<_]w4e`6V&G$T5LT+#ANk1.4F/*9ufFcVSdYlC!g!R.].UbzAM..ow|j@/8TT;#=Zj`/lc7Vy'NW1E6+zHw_p;cA/0H,nfO6>D&y#*;Cn~O><4J9.&/_Y.;nem+ahlOUiAf9xak[S>^h-)sDEVq1(gT'@.@fS2yF(HQ7bQ(qX3q%HE3##&:e50e5X4_dmp7d2UhrC(0]>DLVr(,!|GY0;%A@%!3VixXG/p@@?tr|Pg**=7&!axOiTwy|SHc$6Zniy$+f??-jEF1grHlx&5&@ADzCY+hPhIE79t,=_7S?y;K4Sw#Rc]OfK4b5Q+rvQn,FOWPDfT!aXG%aiHZ=TxtEJeN7[r,AEu`j0#M#QM%bx'4Jm$4]Wf*ug&UQ|k|'g7DkSFluU:-^(Gc!kv19i_]~`OWR@5nkjb'E'ODDKC$mJ6dki/P0p8]v?>)wS,q!/mm
5.|UqW#iS`&iR=DFl|02Pix0uTw,)nLz$/ZB][%vu.a',HH7yk?mKV~7rAn_q^kBcswB*zJpRh^Da9e3YlI&!%u<ux/.0c8m=kr;&oFwrRg=hwJ+]gW(3s?ib-M^RjO(z8^$@2r*aLQkikV74*gP*b#Lkza5zuhc5!^m@b;*)LxJ*%YPM@pldZt8HWV(y/K&AvpIk*N@$JV$,b#x`y'oFhr?PfE?@N]fCV07~Y.cxKNW_2.:1/12i[X4TO`j=z<04lpVlOE=_Ek&O-IC<1uo^aURwd%[?lvTTe?O/TvteSCMvZVSKOM9b|C4J:YFK)'&5;>WYjK7(lZNH^0O|lDe%ah&EptLAVG~JtLusl3c*:(i]q9%Km|eLu;^$ockE<E1L&@v1q&WRjM;Ce6LkU#E8G.)>)OslI4<BxT+FGI+-s&Ww.`ILeZ:I3pKpR;%o@h#8TxJl^&)eeX9,FigMwmR$ewyZ,k|qfZy
+Hlr+@$l+kJ@<o<`t<)g<ATm/9kS3@aRa3%ZT~CS1je<q7<~Y%gB&X5iYz:!Aau=PT2MsWf_Ov6ZWZd+ytoWOY0~+CEG'mH|1EBZF?)1R%Bao%o>P7&R&1lU7[slv^/E:yH~o:''~&8u|FThx<D9ItuZcQJ#@w2Bdh0$`WDMJ]c$GKEi|_k,iW.X%oUKf`^A(Z0DX0KMS-Iw0qE?7z,IA5Q)cKw@iNejig8/psRiz5S|Yv<%=@qCun-qPu->H8GjO$sr9'sHobFg0bz~]ee3~^GA#<3<'rq#5Hg|iEKFp`p)9Sf*;|ImnP,xQB!02~%R(jWWk`Ig-tQF'T>$P%/ig&5fU.COH`3)3Kmoi~?Y0:j?~5]2YOv^HdIz~LqE_~HFsDt5Y2]^`+SkHG^O<-XP_Yzp)W#OL`vzo:XYec*pLX;cfn*OfOwoZ;@a:>SM+dyp=[?HU822`,_v1h)>U~cV52SNc(w|LS/Z
6'(4^WW!*EdX9d_6TJ80=]Ng:ko]6*#[:EPP5uChMk_c8GE!XLlq'd[*vpu+#?#^ezFgvIv`]%Tb)v:=FF,JRw1&^RE6*L<zzI4wTP#&BngWmk3)[RP|f[kr1GK>dc4FC~tCX@-dX:*[9,@9P8re*7LU_,lVJp(bfs.Uu@9wpBk.Q@9:UXCIe3'`!B6f$;bfyCp'SIOJhTy2F$_n!2jNiK4(L&NM5$=zsNa*/2c?%mqm?lF7SrLV1OGkFQ$pkW6vm@>.j:dQ@:+5nu*3,!]8;e>w!9,a|RBo.<Kb2<A5v5=qMjZ574]?6Wj`~Ut`[r<CyDX98+w4qHXV^=6]H$`p.Ta9]OciPIt;FF'L0&()ZDXBoJZ]8Ine@vK_hVJv5o6uvn~D^$MDyMCn-c|JKxW%yTO.M_~g0g>x5B~su;uw_w]^XxYH2o&D?<J(,^~z1ZbkG7(=SwCTf]6dz5o)a$AC!&B^-k|Kq1g6
`#_ifP.k*S&>9+Z.gV,DRr'4(0gewb^p&/f/9Tb%Ud[$&2]6S6J%r-,;GQkr4gw/<N#6Vs^8zk=mHo,$|5o2_cn`&Pc_.Z!QMOafHdmP3z8uX&kPG1K==V1AAE,Hl;%O4O;jd''gPK@!XobzD`0+tkX92po^g)/#25vtD<?uJpeo)4d%7g/9O-_j>j)zfSUiGO[FKh%Uly[.yQ)9!_Dmq:a/x$OZ4<ZkRW`g=fg1m66/Ou@TJYCb4.99Z]0c9i<y7Y?0m5XL+-`RO$A4-nIT;q?('1S?!LG1ayASae,*%)q-`d<,^Oa]<-_tdrp2O@+%f/>/E#R_8(>#=`8E0qtilaU-`uBeOh~QJ=`S7m)Z,l]7%mmx`W?//>ISZHL]jfX5mvJbx&Fb_w.R6(bol-6[fb1c=<+e'9nGP9hp*^'iEktpFgM_oc]/X`IX/Rm4H8PrB;pJRM.-szYyKi:-E@TDw#KJ8ouq=H'0
:`hd-_kl1:Z:X=xF.(gSpAq^[IU7N;_M5uMETkCzCW8+AE.'#GSJ_ljK.a+o=iz`!=x:QH[Lc:VVe*k3&90vR)@6eZ;]USEJQn6et2'mjCmc_7l2QeP:^q5L|WqqU^p8iN+d$eHY^~HH#:kEC.cK$%+,7ic~kci;wPo9)dAV6Sdqv1[gnc29Q_ivzVN&R<05yyqB6Y%ForS[9|#N$cbFSkfLx9(~w7%zjGl<6[@e`):bQqif^ECg<bD2>6gOW~Yi%6fn5JsyC.ZY-5Tc4-4n#est!tF^'FQTzAxErR80OAx<cK_;l-9pPn85?YIkv1,'yG<^RX^ui3BZsE$1b%/tu:(~zy#Xe.|xKedrWeWa)c:!T~;$rs;|$;!^b;M&u_!|TzwRW&6fbhpdn)=kh[-1'1Ww@Kf&dJW;4L.K~f))TVUb:sdn_2DYba9jC+ntWs:`vU5cfeh)$|=!*WSSkrs)KhU3x|lhp#!~
Gg,,5*CfviZ<x>cup%<g%^Sf5<b9:7Y0g'Q.Kh@'-U$fC9|Y?d&78QRRn6OXk,4X**sOyF`qG[E,GC:+[M|TIi/O+UUZU4*qFwvna8<%INIby%&-wpwu8c7`zJL`?#F#3R?6G9dm%Gs.)8F`OhmYyzZC@vVUnXNjFM;hi;<[6lp0xT_!r~9r5a8$DTfKZ#pX*YnDlux1pf4s]'pVQ4v+F5!zU+|IxNsmRcW<q!Y>$]JICiTIX!ar/zPHt>Y|I0>ntOYl'QqXN,Twe7J1UBKzZb&7,kJ/;y+h*/gB3hFBA-j2as|Z+;*u0[_EvF*uh8*AI!XS1G;8H/yN>O^.'~SC:Bl@Vn),N[%(<;F=ixYJ!Mu2j$n[hi&k^LhCgXv(U*`9`RvbIVGG+_%L]k!gPY;c_DSN]:Ync|[Vo;$rhjDO:rxq.pc$gTT/%9j[O-'g'C(:t&4G8Xc>a`n~c,'+]taqx#uc/H./WJAK
ju6>rPRKHC~ydp5[<pR3z8hiwrG~hbnuQ,fq-rZy-2jM6MQ>(1h!Y-6xDl2l'u(%^9iwr[.@WC8`-n[q]aCplL.@N%Hsg<eZ~(j5`&;)u24tq#bexQc;!`&20BIaiSvA#ZN[!os|wP#oB&Dg3:!w|EmH2x:PaXwH0<h6q=wOZ8iCf>A+:^G-~OH(&nIN&$Q8Uw+CmID+;<gU4W9KJn#HY):>2pk[a?gdtzCj!T)-FO&9WL.qmP$TJf`oP5lK]2l|nu@eWKt#Zt-[r5^Nz#Y9)c)g$)s3^mswI`,^cRHW;DzsMH4br9Jfqh[Y4&<K=Dyu_]CLl@w+r0Ap2%4#S-t+b=vnR]cQ1mfXaK;(_!Uxuu@y4|M?ZZcqdiuPVh`#HFZ_oH6S%Y.kHSTWbnh]R1K>:@GIio<k:(GWP`MJ(d:iC&?Et*_]cymU9;^s_DW`X;7R-y/L[&md?+S5YchtUH14yPWl%(^5Jwmh
Ca<c[`U?O^05y59.zNJNA<:;eXM<tUfX95lZamTG?UN+#zjRFO'RYveFXC1~[fKp&_Q>-uqXHZP4f@v1<)ptoDa5lrXOOiU.6gDp~Pk~_m/0yFZ~gvx*`S.G~-qRo41H.d9I7YY2q+F)UP|CZ>GoD(>hP0KP:L*m?N^o<KO0N/5a6)XS|eRZh_4$Ts-Hf+,S@mH31%pqP+oD|XRZwyYOS>|<EV0^c8ktF$77qZ+aRpH_IT?&^uSgTE>]]U@KEG1XWzb^vm%8[0d;a;2:n-g/1;Qo|RF7Z@y5cd(c.]8/1~9~>%jPnvH[J|LkKHK$T&vGW7qWQB`[(OZ%-3zc37/5>vS:Z#<)c,-u8~i@TPkfgG'BkNh*#QM3#p2Ii|kJ'7^KQi@q2(/uz?|70oGszB~>*r<i?(y%#N5,h(Eo3jsmC2/7b~.xtiT9L#6|Ajnaw$(T$0dVcA8R!<.ee[,t@AL:nxD[w^mrP?6>
<4gO'rQd-m%l$1],OW+8@92`pM0AD8uad7~/1S~sOSfIi%l6V4_BZj_fKVp*TVk2:ubziq]w:[MuLT<t5|~/d/2UEVM[<bFx.%X9;[)w+,qMIYGL@;or-#R<#N?3Z<aQ12=Kp,P_FIY6g;!=M9x+2(c|)dgnU!EHv34fo6p0PzPrQY9FatA.K=M:Tqb0vB`MJGbjsB9A9HL=blnEwo2y`J;rw;,Mbm~.5MzfB[,.v!tFYveS#Gt!r#nETSrX&Nm)buFnWb[v-w=4OY&zZP3qGzJp%:4$|nFka@DNz)^xLFLd7@[q_!h^zVYb1m6#(M?*C2Ql5|7PnRVgivX:lH$iCVat/S[=yz>]'zDYfUF8Rc3RUuyG,>43[hb]+1IL[%o$C%[hQ~XQ4Vh6]1r-m=pvUF,?ViUPNT#g?4cw%![S(LFO1@L_KM:3!UmPLOVS4XTS4dccp6GUyl]LyplPnl7C#AQz+VJW~'ch
D<b6CC_<CJ^^$3#PM>0D;s28f/kS/H-3s]``wVyvndkrb4:*2+?RY*LOdK=%E[T0C&?eFNurVFD0J)^^Bpz9h`^KV<SZ7WtZ3E#CI@E*K'p8InVU3*(v[Em9JU0rb_Voy6Bd~[de@Pyu:V]uATa/JWi>ED_`[&lqwvP:E'NkeCZ<z.L9R)HP)%dF*6(nr#c:75Tu7LEs=2&hKwy#0W3I79^%l*]#&bI!#fr8V+Q0<5MWw7nQ8K4s[>nL2m7V0L=TLdufopP$#YS%z[uGH/;aWAB8yU!m=~~_m%,5XVy|C1~1w=/_Mm?T*+/HAPy=CA:?S_60wa*|%&_ILj&DJ$U;<'p-@)+DeJF#>s'Ihcc@$]AbZd*InS97c-`hT@@QEhv~x9G#Y_Z2~0PzM9^T|W7FQ?B|fD]iJC^~TLC4]bzZ2L%WySNQs@0=Q;A]&wx)Mu|Mg!u*NI@c4^>V^h%sMf`TJRY%D<0IA7aN
Z@Opp>>GTQL&p,UU5]JH,olGQnlI*1neVawxnP9#%IIQ0?01r8cMm<6w`r~+Nr$|rGQ&(*-J~Yy3ZTrN$7AJ:vH52!A]!I~P#%fU~!~2/<[n'o8k19s(LcG*3vyp7c1G-Nj+f_,MZIDl'jB1D*SVNIT527Z6nXdT~&Lw.VUd@t+3$&DPI5]k&l;iud,j'(@]-6Z;HMcd?_|*fY6gD2+Wd/I(>p_u`?343v6a,u,0k:GH&vro~+1$*pup5Cvc^6K|b<~t]t8NDI8l6ui)spb-MY6E1/svxfS/C8~rlGn>xnh3@!WVab#BNIV';]c?ah!V@x_6wJWMTs1Fl+!T;Kgkbev;4vCS$(1Pm0wFK7~2ulby8<`pGRa,BkP(qqc`&<Nkd8Q/?7c|4FOCt8hEpl:iwf~2gsK->N#D[^a;]T)V.f4~0hSE6Xb,aOtI:4Fm]MlvOiP?>wyn6GTQ$I>51Cjb*xiA/svqA^8e
*E3me~uV!(5Qni[:YiFZjx,p,8@?m9a)NN]ss|x:g<Zc;WuvVz<nxb0o;Epba$!s^#K~WKP_-pnDpboCK)7GOBiZRT.~cYt^._ejzfpW%cWW3yJX$!8@r0nf[xsOyI3nDFpnk$1pDFK6y72!&hO*c%b]pXSH8vS#^mu%Y*hHgmM!jVm9c_iH(H@-n1~Bh0ji<uK7C:!fJ>NxffU9`bKaESk79Qxk!ym#dSAA7$l5#DX8Z2WfKACxC9|P<e_;nj_oUi:QWrEhzB?u$F#T);Q,DQNUId[oA)h$w7QA4[$~EIsFkf'rIFNJ2,KwpC59d#NU=P0?$aS!xF7L4AF`GM6[+|N5a,Z|c3abnj't.J=&4^]Zc(y9,]$*L#hMoagW6DZ,Axu##Cv5L-AaZ4j4I$k$pg~L>E@NE/'nk03Mr]?O_)=F)OU5_:4#HD?=m%%G:nuq9TYF6%$vX~1!8orK$2'o/o=YE`sYBqc1
@Q|WIqiyBz2#bSWtIA.x__Mjn`uI`O-h~%1Zgq9;:La>:(8w)2mW4,q4lA>sGUo.k`CGK_7@:C5V'S_dkAjPX(mDiWx_#;qrY_bl1/8G[K#1Ek6aY7wS8?K*VxcNOqf'|.dQDY(K1Tc@j8D-G&rDVRqH^w=I%-H)(dU_aH|*zS.;q+4rA[gNxg`Dpp+|1!Jj^@fodfLH8VI`*MgMcL`Z`4JBfHD!LhUM!nKv-oYoPwc8itNKdBqJA2i!B+nBL3]^v-uvC@HArnV8K3AJV;147Ynfy,+Xh!t$V.)fG$sMR/kHLg!VbDC7m_u-D5iZHCIFyO@$u<d1OKrF7c.EOaD9,4-?8-Qa_Fv_z;_1Q_YmywAVj*nS`Ax!kM$rM@]TGsnxPPE:vV=<gi-:SbY=3d/RNu|!'uaRy7dvu,HJit0Zx8:K|&Dai8/*~^bR'O<K,Hvzxuu,[hLd^(a]Lr(P0+3^&-CDZ>+kK|am
#5zJ&EzO!r+ewyvr_C<+J?aL*>O[v-)61F[#OKgf0bs]fz7;rm4&E]ud|c13(6^|ftmT&CQJ7$U8gmdtlZ'nXihWp*F[0rc$;R2A<4a-W)NQ/=s<S:toVMXTzf$O*S(^Y[sSmR->onjf;1$10w[8uZKKov)0Q7u^bCjv['4=kPk,UZwOq33[0YOR8lOMU(9WLg|HPWPBf^XphB9=(gD@%L+d/tG'vBv%pb*l@+8(-48BooR,o&Z15kl304|wQya]M9G`)!xSCj#$TSKuM4Ru!Ul`quN<?edNCD]Kq'#Y6.2'~.N3z|]F>[kdJXd35._7z;XxhRWr`'i#[6Q~1M3jC[R>U6-.wq]ojg573-eIE3Ah>x,;zchdk'eqYX;zNG@Ao]FQlZW|33RQRVjnV<v#hKCj~H/1:87n70v6v[!EHe+n#DRW8K|t->]hZ#ON:IR'v6p47#M`GLe.1^;LFAbEy^kflI!51%=z
Oaa,yR$k']M;r;E0p:YVAibHM/okGKbfZ$T6k4u:Urq~2=%k<6QpJN#(4dnvX%sco/WxnY3B5w9c!.=a`GHBR`1Ab?m:ACXId%_r2gdNlwPrQD]MM]&T;iT8VOE3<uXrEG;VPt15XBw2RCn$I'7VOZ5hKc[#hq.w9&U=[b,I1|,y-cyB24;fBMZI^&k2t@P,Z,.z'!`Vr~b1C4]a7p-?pz`tSaUoLCil5b,$;EIqY$bWfg1J>.^|Xd<;.!$Nd(&)A&ujT9u-5l&<s29$iv_aeghWk52D^WTm_H$Hy$<:'TK`d+?z>!vD<i[wGiEMN7:T[5#.(02HQ3-&SY/hlF'7)yzi5bH&V^Z-~>?egqc,HO7O+/ry]&-Jd*^fKR42eenM>w5Bu!X%0zb8O+r[cn:KTFc*@pz,w-#g*GaDsG|W&~4Olh8RR)8`WFY(Xy?lGw#`]/TSq&XqtFES3NTd,p5Bd,,eFNtmwf;C
mE>KVE5gvv:u:x4HrMC<3ou^WhOlsF)8ggHSJw%&5'3Jg)Ys=wd$SJGN>E-_Nis/-Za-&PNl2*7$lK&X#c%Z'`V)v>xj<=g@O(i~#b;VCUNJRe:9ve_~sG>[+H7:Vy<0Y:+2)u:HRll,jgS5Fn$_G&=Cn&Ds@%<RC8C;W_,`'Ec7KT_jGdDebTJi7KR&L|mzgi$USV]1da542g*e&a+Xr;UI:?1)Z;9mDQvVqhc=rrHUpGuMoRq>g<pmAu?(v,99x,_U/''^cK9$~?xfPUV*HcVv/o00#GGkKKsPcPA5)o$awU$a0iFsnezRT3h0CPnkI!_hg8!bXrwhbse+VgLEr@4?>Pgi=foRyTzQx@gqPeA5?aJurdcvCR:B#bV~=jX/#(t$8|^f*AWE(fqfjlWU=q0[ER@C7u89Bg,@q`d.o%!`JIDy'NyMJ@5z~GcE3Sx'x,(r*Xy&8CG[fNFDp|a1/W6mOxdRhGAH
Qgc_wD%I,_(sI(:Oz.NMwOf>I.T(W#g;~$H6soUo/EW2tb*%@B)I'.pw.=aU94>35>[z>DY!~b:ALpj)#,,N<jc8dY)qHc1#Hf?E^S%GUOT;c'eM)8I4<Y?o?+[79[X/4;~2H>a,hn02!Ne(Y,Xbv<aUr-V;j6;XM#%gr_RonsfA)ng))s#kLKP3%1D4kIfPGL$xM9rv~^$#46a`Lj<60h(0'$w/+KJR6<U2J>cj:Oo(q62DUb(@BBGMOt,j8_+5cfMT'Y0|qsa1x2mqE?Q+S>o!vc6C|V(v[@hU&OB^4(yM|Yho|pk.El6.@GWE7]bmyPGwG%X;-0c/54V(+ZFPuP40V4^&[X),<MjngIv%3;.`@q7;#rkX~YL+9|@=82b4Ab$p+Jy%jNCf0=F6d1aw,Y<pdcK7bpT,^Xi.;U_2@/E6Fv2aQ&e(@1wN)x0^t@M=z=7:6D4i5n_5htgDL]V4G!H:2R;3W%=8
4Zu(90OC%UqEIDD%Vrp;?j,PG3LD4niQz3Zl-:'?Y9_Af*+9AvJYqS6V.nuCtb/zBN<oE<90vL-I&8Dv^)Gz2GVb4eK83:u7U/5t5?Qr<ekW@it~rCzNgY!|H.$R~G3=u)SNl?31lu=8Lc'd1T=C2sH;2hEF7GMVZU-QtS-E%wa[wQ%a/iPp>dx>!IVtw%N4p5GEasNfUQT#bu74q]wcey#)t35~B1z@9gr!y2_-~ro#8/yDL/|2o_F_z*U6!R&|x+!KkCrnV7POv>IvX_|^qSDWu-2*=88+b%vW5Vp'.[NlqUwJ*uVkN,Zc9e$a6YZPs7[+WK&WAby^SfvveUH4hIbO.Stk55VK!Z4A9+$Hd^YTS+TnT%i!q.Hp7(H<N'?J&uxy!1q04g#R5+.IT=A;FgpwwV[I@ETTa.qk9b]5i;G$n!*p*z9bA>O%RXK!3:UdMlwf3K&rTKABD'Dz<AJuR1Dq.!$oawC9
=x~,-#OS2~kr>>zrNu^>yBLz,GUnt0pv9D(yd1JxC&St6C4Wn-g9Q?),^.#wA$C=Jl!nB-`%8H2&B`M:&(&y&(:8bJ_-hLzWRqGj:&=Oi&KmR&5XfmC_*y,`h*fKH>Yn<h:WWZF[#pTKDh`)lC2~XiGp6~KnO4rKhb;L;djda#VC,GI3#j>xac[Z9Jo0Jnr>E(lAG[<4j#-!PHD9NB?6JsW1;wuIt1zh$w24&>=G!%v9.GuY5n85sJ.?paw=<T<KuQ3vlk#]n>&3uEc4:Vpub=6G@mGTle#c)MBo<^9AzAPlf[E_hMCsGOqx.b&nsN0egxjRj>&+cJq];M;9+V;zM?eJqk`BV#Mj77:KFIPGDRb:vGa>MKSw6u`WG1_`ai<5ZTI7AyRLokC05p0C=`TL=kFGTqf<Ydou_S_CWSF=|!VPX>ok9]fi(a+5$!@m_GXOvN,gH^WQ;L(AyqRfxtGRU989bj.@l7!n
,:Hj?G?B5tAR)dL@z7?l>7cp=HlfbrJ@<4|/?X4|hhm,$/w*Mnh#LQjM8o1*rUZ';,78>w]ot$Naa&@#~A8BB!f3pzLL)aLdmk]x8d@v)N$))3l'LCGCXwamjz%wh9D=/hS3Ptk$,#0CwMF,U=4<RAQBLV6,)u41t/*#@Tw1*,^vd')2w;d>mS?F8_j']vXS0j#4+U]Cx.>:<nKu5t]cg&~SpZ%`TVTNV%WJ;Ew+K9CU0ULI!t~BQp/lq/+800/ykyq<p#Oy.3v8+2|h_`reHs=jZ4PYvt^JIT~u>P7N#<.(SOa0-&Z$uWn;yE??j,Mk#MidYHVFWZrdU9&p-xnP=`^JYxHKWR+!]yn.zNM`<(qu%4;H#INNY+Gh'~#ebs_Dzn.?6,sG+|x`p8WGjg-fdIo0;u'iUb1$aQ4X^+_86_yp$A~*BLTBke7<nqb5c2RRQhkHD^40T|VevPTbF<~r.M[6eCTISc-J
gOy7R-U.7L^fH*yjC_VW-tG0#D;xQ/?`(qRK^I[y<Cv|/DG?DHHgjw)gYcg`NxDdDJ:u3qYqW?,I0!Hu?uWC'Gt4Sbn`vfn>Na(<E7y`bZe+9Grl`/P-L#oPk|$aqS<0!rDfIbWxzAE%_*BgQ>'F:$jK>;vX3.E)>InyL1_2>e/DBX_$wu@or;#N,8b,@gl3lkGr1MYzc'-`1DeXsm@T&gsu=|Iq/.,M,&A]h%@612SB:AS[^Ap+T5SPq4qmI#nfmAy)~7qF+d%>dUSvR-LSQ_-w/:7Oz1!5|EPOKH<b9LMD#MtckpAn;6NKHq~223`<V>~'+La8f1ztJ@E6JNvvl([zX<t|*!|i'Yy(NdR=Js?O<*PLFlJ@iC_4l>TyqwXA^Ev^WAFF8sZi`:&zUw/,);#Q-8B2q3PAsIhQhqlwo|Qvdpk.*DHuk6T^Tg:hW`Rf`Cg'E6BDRfDY2Y5j'`Mh!IF/Mj:?|0_D
i7ag?j5w#Lwl1w8zj2h[p%>?6rrLGN:>F7naUjaHIp<aN29]:J|w2t'GiWiw'F?-UFB>X|H'GlbH+4$07MlE1*ef+03[gVN5PHuSHZb=>rh;GhxqnZ[>~B=uyQRG^()/2nL9%4u@-,%ngkOxNS)#JLYRw8c8H:wG~FWugMOb@D-T.;']G>lYhINm-&&5W2gfHSxanZ]]TRP(+W#2OS!)d8.xuYvZ:,Of,_.yPJ?@cPhn@9p(3Q+MuCybMVz^~,$V/72([:m^9<E6&k7bc`&3`&rZDx/ufEjv(_1y_w~R7xjlLIGH(m.mne2e=~Du2+>;el#F%hJWA|YDydZ-d3YOeDEkip$',TH^n;Cz-KI<_TyQm,G(~@qE,'@#1y.[Tiqr73HJ,go0-Rt$#<h6v[YV6y4a[Iql.dTx<4hfM`nQ%1OZ[3*t&x<u(zthEjrA%[r<2/&JlRIc_>?`@[I*`;J8wnVPy1Dnj)S3
hP)NRH|u|pEJakd:EN0Ih?~SRWQuF-Ru:>)$Tl?-@`Yt566!p2+s+`l%bG4?'!j2fZCtZ<G'j1(*4~uH?:t;hi$|3<m-5/Z&*!A&TtAg%|[4CVo4!7rtpW'?oh~.r8V,kUWmZ.lRYD8%)[0+ynzXH8EUfB~99Z1aaUckqU+.gJ#,C)q3PD0sgmAhb[9<GSF0T]T]=n;wr>xKzV8EURA4m~<gFG9A3/dtLoq6x/+]mNX*b^n_+i5!HdZM]Vp`8$I1Ap6b.<U0Xx,g~)~7i+%1h0V$K0zsr_p3_u3UlVNRH9,/NwxMP_e4qmK@+Sf+JX=gl[C3;H`pajQ,)qUI@r=IsROt@MQ0|Vno2!I)1|:;^_OhlA8ODzR<Fl['4,+F1FXpu@#E!~C2CTUDYvJ0`-l?C-j@D&IH_D4-nZp=3Tw@rQwO`cW2Wm5&@Fr?t>w-h:xV9^8qB/?kDfmeuBskSFv@5&jKo_q>4^E~
8mO$D*6Fq~[]QHbc~sUr*UI&-R:itZB#@zOGwO?opk_THU1iY;Z*vzV'xd:0_)e`>Cw6PQex6p_OGRxWT2l0_Uw>VqZ7(lOr,O.*,=7TEq:&mIrmwkK1EAXP@|B+%O/%;B6gZ@<oHa<I?aS)P&HkQ^Jz,c0juMhr];`pFOD/^:UYZ(/Is^GWEXWHdOEekx7S_O1aA_3Q=Gd5(OWUd3kuC|[rbj)9'c5uKZOg'jV#kMAG|@&g`bi+bnL/[F|k~x<s;a%`xWHg=3&)H!Ol,Rlrl%A-LIAmK.;OK<y-hf8-L./tczBcy~*R,:~<5msX:r,vcNu/vU01cXd7P]oZ;e%^*#Vql|HL7Ask<d0<q6!a[,/w5O/zD)9k%f+;3''Z97cXm0/u!`I-3N^D6u;_U9MkY/)dHLZ(>c%)Fyp;UprxbiI6n.b@TOt~UBD+,1fP$d<O@Iact@1_pk2As*9Ku(+z)9B!3-4k$d|g
^J%qNSz[U1V]7CG5MlP!-FglsFo.<;D'reeu0'H4[nxI^W>3EbD5QHBrjm<co_+*M4(``dc-o]M*'KXy2TOIiR0i<?z6?:LWxai8N7a!='7w>,eQ1RDVI>yUrvkeEk#enyJ8wo`ukSgslV/e7Sp7eu6p8k%l5KLH[$-FR)^[aK4TwT/p*^*[/`9zRz2^.RYVg5c/+m1(Zi?J%aSEk9Cz0px#cenoF0RcXOiw31JN|o<'LQkJetPbPmEM%&D#Ml3OB>Rq,OR]Blg%/+1;JhFSv:<x^OjKPIq&0[anv*E8fe:qZ]KZTvR1QCbV3F4>r@HY*a;m>N7qp8|Q4=`&[d<1`F+E?-Zb13[/K>Xpt*Nq0`X,<:|.`Mml2GJ/ghGm8][tF,T^Q$3ZNg<_9Htr>u,sG(#NN]3COWf(.j4ee_Ta7:!vS8prLV^wNX3h:L0x/%Ep6VFs31#I[(U`cF4|O15#ZB|urH^fZp^s
HREMEYj(mM]%;bwK^N+[.lZ?M3CP:h3O>_41jz2-~w~m%j&7SgoU35=z_wpkp+0.!S`y*>1fFb?wo*|H#cZ>4^YV4Aab|~d;7O30dmMH@(O<9v8kjb,slqe+-B3]T2<l&PX;fW&0ujK9e%*_DU6F_#uoqk%e*8JDFNt0ZkVbS9.$-%*#TsuQRlsT2vY)DX/$?B|y3p;Zm?EC:R_iKzS%ik+j~<(&HdSIgbd<+Gs>G<:V54KPe0rU3m70rJGx7bm&(Py#z:Vwzg>v*^Y!BgNLY~cD'1]cM4Oy]a.%BcR9Q@gf.G^=a@b57l*0xBUq<mtn+.J&ti;%m*(Dq`SjY9wk9Bli%o<U'&8SOlMB0T$&X]M:VVEe|wpsUq~nY8o7=@wE~2yCQ!OYzsBkuuGSiFbf2$x7@&8R<_;goz[@:/#*xUqqCG1wx<h7zVrD)60*u_)Vcnpk-w5#%Ig|;&;,DVt[Qm2E_/Z('ZT=
kX$+lA_1?/gn%$JqIlbW=7!M!SL$Fis)NnLl%|IlH`N62*pxY[Ux#:V$Z3Rbf,XflT!pR*Ex@,FSG?k4U|b<L^UwkUKs<)wgZy/7jmhm0'Nkct[^z%a9+kxuezWaxm<*[Q0Eg.XH29)Yrgc34VVrTMr1w'GR/Bvw<EF')7s$U~EsUkA9`]cIF~xip|o[gEtTF%l*RCfcOCrK-3hw>mQFCcND/e|yNY!4HnM+&FP!Sib3e]ZGLBNeRpp-iA6'wrqV08W0)[?AEiq!Q*Yw:;rc8VVq(tgDT)=@5*iQQ6n]pcnO0NFx[Qih=#s9Axp3!%CP^qEK#%!*`ILb!(%,a'Fd;N:|xQ!2;c8AdI$R+-,D7h&=J9PokCNe9Q@k:vArSr%>o7JqFcgy+LO$Hn83^$:xTe)XMk3[*L2ne+:h/IUf06X|nspg4MdDK%6)Wo/jfY@dr9x=%pY*F3xMTfti17/luUy,eL^,Ah,.
?p#=DH60K2+<m3Ok0XT.U1H/5?^P%m:Oi>Z6'yWqsl&bl-fz4W=p)N);aV2&7W8K]0,X7<#N1,qI:qYe!z`~4|OUsSYp%9XVXatXmm8b'9A]Ks<Jk_N@UV1+5b`?w;Dz!jc'F-nms&z^)q/:V@FnC$birrlx-gys3@J|_1Nm.]s)3,hL1n<qGAZTVnb9BVS$.=ySkF#S5sq|'o2sRh6'P;YCIkgKX3I?!Gfa`mku#IH:'s8)St.W1%ly4cHKmW=@:~Mrv54bM0>@=;@^,g'I5e(&bu<^6D,4!-*Fn8N&_8U0y<`K,WE3y@7)!/*Z*~de##w(7WYo%U+4X2N<=^Dg$@E0S8zU|u1;dkNf+]LF#6s!y;At9jrA718F#+IS.@Dg@~zfO,kUqf,Sb9v!eK|942V1eH8Rgpa6sS0@TG!x@fiLND4*gsw%^%I8autg]tf(A$32uSq:I5lvBp&ZU.|Wo5J6R9gK!I>c
,i$^oBD)0s)LbApESZK_)HJe2N@GsOJXp]uyrg-kJt^vUP[jW%o%KR,csk6h8tnYT;q~q`I*DYw6)HIHj]c?W2B0%G@yW<W$z(Jwm^UwORR@U#E*Z>4Z',l*#,V:YId1ZKG|5Eri.2,J_>eNWe5l:^?zSzw6wKK@-vZ<^N3GgsEi@t6qP&+hU[$#FQ9bZrFcp)Car0pQzMX_J_#bu]9IT6o1rP@29-W$6x/%J)xz~Hu2+naG0daFHJ+6*un<(/&rbXRGz/m@F~B;^?Mo*GIJ*$`]c-9!(Orhl6<G>+.ay4>-%8DUx6*Bl^U~v[!(_4$x=A/-`9|lB5DwNXwYAA!/cs^Gbz:*>R8eA(j8>pKc&bMRofz+4cb#82@KxArZJVz4iSSE?NA(foIJf23ch*-?3/TwR!vo)b^YA0:Wi`)'4;B/Qu8w,wx|a_sOdoJ72d5|1j(.qDv<65PfrWxG~#x`qZ*y#]KMw*a^
)9xJnao5'!P_o%LpUq&AgV?`c#Ov3`,H2CvyvkL,1-`NJ`e/0&bvgrvX:..LKJFS?BXjH?`)jA#;@->-;U_yd&]EckVJ*.#|,ZpV]fm%hxm+`xg7KZTzQ),>hp'1vu~6?B`7|DJx[qBl56k=Qf)=8GD:87HB3*@oj%-Pas'zK.0v)%rr`xdZ0YGDR?(Jz%4,+eU(8Z0<RWKkVADPto>)bfOo[zcIp*FYz-8&iS'8'jX/=V&]kh['::?4H^;?@|RG+*#MHr#lXx'$YA@ZZ%ceS:3-/'Hodxb8x6J.dnA>KVf<g~-/o`ED258+ws$4xt:bE-+H&]L<sSw]AQw#xa4*o^YUm>lwv64&jm:fg!_gQ$|zsB!5PW-g%A|ilv+3?t&/kC4#^jl1#mS>lMr;+/kX^jT|NY.B>M?+~E<)=@b4x^wNH]J_ghaZDxxsm%QRK7qhrk/rej9FZ^N%/,$f8't[9Tf=VAec&%ZT
bb9!YVPmr1IQT^Zpqo.+ag<zvIY:La@@45os)W9I!I/0/BvO*<DKH<dvBzlir/k3S>og>pN&m&dbEc99=KER.4+c1gJwwb[vyVO;LPpv*K]#3u<jvTD~oz>l12=U#MuB5RHD=Xm!9>i>70VT%i6vG%e%]B'(TXjfLlHd|^CFyT>0Uon#d!aMZzm;C,To#cB5~?6[r|HC'i6yk!OEz2.Vu,fnh%-ClLu8B[d,2:R^!|p_-,@/<a~3ElILbwnm_Lth|,<;$spD]M|vRD%/_.>[#ni#Mx#%EAM#xI:PEG.x`5DwtW2xBBooH]m[X+p=8&g;8*]gmV.h``ErV`T'xFTom0*DF3fqIaB*X#o?x4)li$jod<vXa8pM15ouy3Y&db4O;UmVKCyaQy3c7/-Q!a+iG9)'M*)v-8XZ)/$=~xb#>tENX.@]Y5Yh~B%8?D]&8LNwXkwuwShqApK^Btq(JIdYJwt**mSRv*/Q
TFeB~vV,_v0x0;Gie6ivAT[%8q4FNFBE4foFi;_Wot2dRm)euhk$kIDXDd]hj1sSA@6R_O7Y>_QJiH7k?JhcmTgq8Ny^L=9W`N)A@9?h1fxPbL[5(5%P7d(G^,'5M:X;blU[giy8gnA4cHCW;(!^Tsp^2=rgO<n3r(bke~iRQz$UEM@D2'v$b|;9bZi#r9HM(mC[eqqSCXTWUMfOpgEO''Iq#-&NunZ=~CyE^0Y+Nopk*tmxPgb>K2fPWJ<o=Qj1UVpN0aj_C!#p*Q_@[,,(3Vz6.&Rxy)@[uDmiEfX^7amidErxX&a>YiMd6;K2&w#oEV+2KFxaPH/cv](^@W81vsJl!((oRI^HPn2/XM0NqF8uQD$**b]mz9dF8,>NI4a(LM6a)Yq8+BtW//R[YnOj2|oJkwYgZXGIm7R&m82]w@fm=HS5yHq|Xdg~HJ_mrLa#D+YHXF.)g[qg>jgO!iv#aFS4nD#dH1@8
QKuVuAh6)g$LgNJtSSOZ?SMMadNPcA>mq!Ru]*M%1ni>9f|9PHaa4CHgD<5|oHCJ'X*7=3AN6iT>d;#BO-`9kW|)m$!;gz|=1q/05:siKo]E+23fQ2PCVaw:DR3r!Bt2mp:awTqD[^+=/!gzN],5au|c2=LFBCZhB!%sUm<4D2p9mry1!U2blfN8pC[o/!6BBA:LQaOortREKB>tM1'mkBX=zwM-HpsF5K~.bE%uIcvGrRlu_bm~QGY^CGtt:s`MO!:nL_!DuTcp+ToOU/=urCn[o:d|hE4BC+rJ4eVBgGW4A_Yqc9ay]T+/5^M]qz&3'bH`r.t!r<qj9^%Zi71Q4~gdd]lht&4Py<0?gMK9:efo_g4Ac]4jOuH4*(:DX>jb@bM6S](ZfqhzD;%,qbM[9)`Rjt<nc!2R/`e>lj@:x);4lAg[J)sTjK|l%s;h:rjK<%^`o22(b2aov#3O+$L#zA//GXUH%'I5
+F$R)IlhEn1k05G/1ACf=75s<MG12VovkvK;2f,>:9V4/[ARWLBcQP2P=Ync-v&t+~WM.wa6.;&y<JZm+>$1!jF*5,P<fr$~)(4Ak':!x~v<)e~!HIxi#@8ZT1AF_jNthPRdu%gx2Xd=b!iL8`96'a<v6NCj1k'2?tVssz6-^s;:fVwA=OH?6#ABF!G-DubWjWYACd[FV>XFCM@TUJ*@Z>l,U~D'V%cI?$:D[KGCu,)TZR`3o0D+m*Lq#!;:d5KsFcI5I~/R/cNsH`Qb%~vT[|yQyQ-=RFE8/sxp?W.R~'c|qxEQOd9NcV('*GcC'Gf4(nlq!^Gi#voPnnJuc%cf^lL$f.eb46#FJON~2)s`-Q[c?eJ$ee<Vx6U^C&p|Zbtj8Fsi:U,v'!Vc_Y4M>soGG&=ECg2C95z9%1yo=SC&EhLI)v3MZ1-gsJC&PBuFy|y3^i@6JU^8:qv&EHV;GrEy=6*6T.T<TO4L
[.>7-rxi-e%8vcyIL>W@F7%L2'D:KrwJEy#PW>,iWX.IoO|et,+b'kfSp4Z,zygxe7Jfc~tJ5Vgtv`kRc4@nQ4T~!ramU|#ZcS6(wwMu[j3jhYIhP)a<d)DZF*qT47s8HPPjyBd'MHv]riIR=nv4?'T3o8exwo#!ODL$`B.*hOA54#YaGy.s2?XH,g5DK!>Pf3CXjC(vgXb_Zt!gv1=d^iAtlNOIK+-1&XbrNUZW;bVZ)dmq/(780C_V(:i3qxuy_n34IL'kHB4rLOp%Z=wps<0j0|<]1=B:mnw?z+$^1W9`Fnf&0E@/7riSg6Cot>WXE//juhBf+jB8'9%P;-^ljmg]Vi;n$F_.7:w~Ml,[|Y,DPsX*`dZ?v-kw#3HhH3=Z>SBk4ffp'V2,Q+_F725tk@TnrX)QI`zIz9I!|23?;]?|P1_yOOxUi$Ov.EN2v)`y2`dkL+Z)=BeK0Z_bGLzB!-V5V62r<Ndt
W;dp</Wk..@?aXFU/mq?l5RC!$j=Yj78VBu@P#gYp=89].6FU5ONhbYF-jB3%yi1c@`R]77*3/,$%1HqaLhlVmMW#$)X<hac:F8u8*dx-J[Jj>$DUTP*]-z>>7,[~&0vuVSC&Y1^3)..[@VW/H)tx||*)>`alt,_MvAb80f.~4`I|%Q=n2uw*7SO`n&]gd#LlW]%]3QxI?Jx@v>Y5z(>cn2hIz@/wEe!ir|S!Fm6*Y+teEc9Eq3;k1),?_;w12BOhPmr4CG(I^f%Xh^^0QW~+!5xek>mw-y+aOeC4VC94r$o_ZwEc'XdrQx__)~gskphnW_[V5&!OACYz~dO?W3T1%_q!exO7JvrMpc|PK-fPQX9;]sL/n4J8Ij-TW^/L.~$M&HE?Fj!(HCn>j)2<`1HF!j[|Ot;6Pg6|DZS40/L-~w6f3UM-$cRPe5[CX'NT~g4kxjN;DS5E`_RF6p/2$lY42Zy7+*i:]gW
MCb!h*,.drwN/!?aa,x@-L4bL/YI'8TbFHPru^&U|P(HgJfHPE(+WEGpC8dRm97uN*Z@F6wLWBHyb^+LG:Ji_Vw0#!BWOzfHk4S%c-9vNU,qAD5ZqHvsB0p@Lh,7&8>*:5%BbvEb]=vclMGe9^'jG^tiP:&eir&MW'ii$kCo^f=Rs]r@r,!g#Wg-H?^E4lU`>iK0s$,M4<m$E##WH1qZ!csHs>QU~S,NrLZRM)6im7nC!Q!F+:~GS/B4bT2Vp7FHFdGjoh%=$'BM7qAzy*]Xpa1--q]]8^oowFQAD;X[eESU(,q<It.Z?|,-pDnU+;IZvP%!c~spVJ2L5Es9Y(JXC7/W|~Q`z^W(RxT?^T6l$L_HF*mByk^:Lt>,=.S.Bgnm`e%,P(Y46JX]w@CrgN'J=NXU0|aLyg;|>.<QoY3XnOz:lF|=pw%cSYeFCkiNaM[5vUX6|Euz>H>@8YMGHWg*^?i[DtW9Uld:
^VwP4H:ClDi~roG+bth^028On12?qwP,O1!5w`jH!qWw_36<nn54i=B>T2HP1nzkB*rcr~J,~'Vsc$]KuxOvmnD^:Uk(VUIfb&av7';45$6TYaD*ihe>jcRX.JX3hPAV=X|#_D2~D*0umBlR#?7oc0G;;XG*N#&'rWR)V>X8HJnP>&@Z7@:u1T>9XL8)M!Ori2B$FcGc|yXx5;FSW$?(67jP!*DGAS4CSx]wY/gIEr`qtG0~5b8+UL.**-]E9D]9[L9:5Timv;WP'xv[Czj)@??A=GJ>j%JzLg8iOZ0`7+EdX47tycJ`J)k@.rQ;L]D3GyF3CtXjya!rC)&FbNh.?>Ko-0r^wai/r@Rk?&ode)C[$mLR$1c?>Pld-Vf@3?NA;4BMkf)7*G`Z`l_~hCW,*p<cu!LSBaX|~JVYHP^0Ci?Rz#CVheK6+Ws/oz]P]?iwzce'(*v8xL(lRrko3PLW~WZeYko|YHve
|?SJr[4a/+c:!!X4?,zF~Dy2bEQ!Q#,kT.?R#.VHGBt.>3M=crny(-zwr0qB$I2_<N`&S^61<=K8z]W^5'9!;gfo-w8*>!LhRwysAtjx+Sgy=kBR;4BZZNm56$~^QKk*CuZo]bwk|$Z[t~G4(dX9J~R0>wqNZM*%i0[*,xPR4-wN|cj0K>`S%q`aG7.53EVl&oGK$$7Pt](Fx(HWYKzp7j8x?p9Q6.'']y''xot&,:%^9>p0v|x|@LK=$o%*k$a?y$OT`E5pRU<yh`$ut.E;n6h?XZNgXl|%&>yqv'!^N'>~iEiH:[,Q'A9LPSYIq]XtlkkL*[q4,s`!a<<b(%@Q:i^YQ_x?P#H]MHW_z7!S)mBZ.*hg/EQg<i.Tbp-qaw_<*$eL0^&%CUy#c?4:T+OQACaI(bKVE^r*/8w=(G6Q(ZTX/T199f89u:$n<uO;mL<r>PX~Rl@cQId]3j<4;X$FF:GFAg'$05|l
P#Ra|w8&^L&*(p~Ly'f~7b1-cP^cUy8#iPRtI[.A570W&TE3'(OXX^#`'KD*cbgUd?<rS*2t!K-0~c~$~M,g?qk4pZL4W)ZZQV<5Qrma4dN]h9uU=oMg!7P7:v!Q^_)=TmXA%C#/(V-bP)hrrt-UskM][N?J:&PRl)=l(uauf7NLW_v<:LFvjy!u|W!>qw@TB)zZ'@3t'D0>m+EAa~'xQ[Y|U!;bh+#e;:En#tSM!jt=W4`5`;[QliJii[djO`%uT'@cbD>*;n)2!%`L=PUu?1Vb?cA9ssj*lR.aU.TKp;at@H&y:%)HZzcGk0VL7r_MGGq7&jCz4Lf=<b(rQA<GN8o7pUx5bs>Hyg-,W'3AK>Bw7C(4+8M[QjYDw4m'M>rSzibw>2D6=~&-S]2W>#.p_|kieS&7l%UxM%`~Xu&s3+_85rg!su2t8%YxjJ/.8sG0Y%iO[tB3Vah:@a1NIGubW@,bSskW`0yu
H5HC3EeGELC`#Lj8B3_Gr2?;CGzgPd.~8$3#yd<~|=tK9$+-a^l7&7ky_chbjQBtU9-&gBG(weeUwI7'EGoNr$0l/cH58i7|?TT$sPpT^JS=rf-N>]bx&yuh:P?IIiR]lf)v#_^$G(FbGavfZp)kE:L:L-&73z(2*9*gHia=hcN75n~h8z4hjGx-30T9Iah6wbZmx@bk^<RjbuZ4J4iHVNz#J$CKCa,qj!mo[y8ybB$64N<1w9BWbB@3P]l4PSq#:^CfLp/E]xb':m$'U;<~e8=+0bGSa/lq~hvlg;HqV6G$$T7KE!vo=RZW9^xk$Kr2dRk]~bn|6n/GsQWi.xV>PRCCkyS_j'>!8oZwuZ1#q2J-[7qtR+ltqb=CDj)`vvBT&XocJ5@VcvfW#vci[_ku0[oF&f5NUA!z0i%x9XQ4?![L.nvRYf~~^rt_wq(s/[V#PrKOGMxkT1Rsu5e+OB6Cr06W;ftO05NJ
!P0h$WxyAA.3e?HT?gmU6,y(1C=NN+fK)lJu-(22^lRhP+3YBhy|E;q>t&VeS1dd.g#/J4z_L5fdHD_&NW2utF.f,M.';fV,22+Dxj'Uu.^;i8ZIPJ#$-Z3xLU<gh8!2<wG1Q-D7!7=%4R*-cwcn#'g[eKzDWG;e]3wzYUR-7|sx,VOF*5P@>QUC/c,]f+qm=v9RV28|8brJbZ^32+uB_D|sq5jjRF;b0KW0'$b+u#s.qFxs>8.$3v_<-U6`Wv4nL`Qeg^VT*Boz%-Rs9)p>&@'T$S49!fYLz:(?Y']9|7C6tQAZ*a@Jm@w_qRMe>?NLzCG!T5Nje^|_XRq>hXAxbu.ekKMd1N1,3|RV<!^lYvJmkrF4e^ef:gqE),/h[g?yay#]2W3aSBR_(?N$8kXIqhG>1Q?;lxtZR+%LgJza)]sOws^^bb_AJGJV]9^5s'0NN=MqDf#2#5gBSaN]Kc?g2_SGBVznVp(+
k[V80-wf|Hjk4UDIKW!)1No~.9LM^dh:jn>BJjp@SGQw,X2^%:El:f%JF[NMvp92+e.V<_i/px/z8^)~X4P!#h~iS+[D=w'-`uCUdI(8[V+TMNT)O[=?p%*;;_r8)[u3Rc-P9':d[?uh+EHa<zc&vmB7Wtxms``MZD?o]d.I.Sw83P;;<VA^'~HIaENb@t5!3Z[0~Bwq.|T@mGR6arK9/=NcnK6E||t=ok$Yf]Gyu*xwdn(|doA5%nJJ.TM8z$7@A4Y2BGkj7Z'Y&'Ag%|@dt4s$P:n_R6TzBRZ|>1%!ijNwy|;Ivmv$a']pT~@KgG<%Q2`rVtk:^?g#1l.>ox$<:0CC:)4mGxnf|yO(y6TfJDMgb&`3[_+e[@nW0_C5%okmD?~W)e;xu]Q8]qDhwp#'Fs.Mx@$cc%*qPPcX9:hNYz#&*kN26*CH,h7&=YWLwdP[*bR.B=rxNS`gV3E)EOd1V1-l+~97Y/#&
~I^1K(<^?[=*[p^'2a?FA#JkJ/|)H7Xzd8WA;I9ihW`]ROl+7'+=Zw*U/,K5i]#~jB$qAyK?|pGE+UhO'(';e(`EHAx!dx:i?2dS6JJZ6upuYgUdAxch0cBz&Gq|#k*>mc_IM59hbnj>jIuerNQg|?_h<bpTIWY.,=|4owkd+eDHMJ(]C7+|,f=BEHfp%2jK4tt/9AoPts8,diWBb9!soo16:2SC(XIbsBNUTV7C59)Q$#|h2E11)GA%Ztm0pQG*|30('81Vf'^5fDegai]&]>TJn~o)4`hf=?:6RsbFI7H~OPnH@aRw?&CbTVrB_7M-f$C.cbx6.^jnN:rHkKI9ESy:wx;/0uP+A=K5^A&zPsdJoMb$ObVb#<-,r%kap;Vd_fu+w|I-`_VD#,a^rx.%X'r#Zn9&PKKjG:UM),C$+MKWWN'-c^1IYWfWYSxM#&bOG9YKQC669&#miIA|j[w.1C3-wHiR[_cK
i+y;<NadRTX2341w$.e/#w2yF1rSr0]lP%_-1mMU7r$L!SmSadIM.WC80.j)beeop2y,k=Uw2QvZzBZkrLXmnA>L)IV?Ti]$w:ndRz6y,-f/[^1M0!8d,Ik2r&?sDZ]b|??*P!wl[!;;_xL'PQ^_fSj/$zzlwR+#D$tjx2M*N27sy3A-h3?iwO2RvC=?~E696[r(-0?RT)%%*>#v3!xhz/k+L*m1[Vy8'>@$Fb$i.R_Lq;euDxA8(_|d0zXP$z+2cQ=^*3!1e#WzW5(9c|WWWU|[>G%zpnQfb[|WED|BrC@,MF,5NZ5B2C~ZGu>Fi;IZX>P*hKIC-I1tStexI|p2ZtBQP3)&z`NamVLGJ9RU%FzGqZ7';ke;eq^w4yo3lPmg6RtG_mhOSpe|yO0&d^h#C;aD`0_uG=DuXo_m`pEgO]:I(I0@[y)bu=gh(T?h^6<R7wj#dse5C2`ALMpWBF5cCBluU~Z;?2g`
-%/m3KOC0[31=7oC>0FAi)iZ362e`DsU,#daUacuv>n5?>ExM[uZTA,1Z!ip2R6w7(_7@q|~-XYzRZoL1NOmd;8-yQ%K`4w$z9P3AYK!]eWT8>hyaKh[lAIFlO$6#2ZRotO;NjX`jF$1.|+swy4l.%d1W>s9|`RTt/KDcpjdBA(&fJ@QJZNh^igi(Yq*f]g^E3GVhJxWI&)Dq/G@CQ't(,x;F%#^JSnzrQ=p:.J(L8z*en2m%(*O'[Bc448@Le6ck:#Z5l_k8~Bo_y#!OM(x_9]qR!Am9M$^Ff2Vf,vvg#[VoxZCVPsO%?;Kpwk|sKJQr:3RVcr~=+]B3vH6Wi#=.##tH&PqH)?:MPi-W*j'u`lg#t/V>X$f*T`:Fy^sy-GHG|fw<T%H,l'MkiFo$rrJ=zII~.'.PdyowR3v5H8/Rt14w%%!)z7VXx1(Dw~i~;0qV4,X.zcy-Sj0.9@tTk/i74A]0jc$o+!_
,eC&'JT<oe0yt(P('8>4y_t:1M$8HOcEP5lT:UiY)Awg;t.r$Tfu<nbX1lrPq:?EVU!V^h2hB:]+fuW#5ObKMU`adlz!e^Dd~q]2uo0!SlR`/cjk?LS-+#03@ugg0xCmH]O]s#afMUCzgGOotl&5Zm@lrMoL,MQj]|kxkel'AgQAn:iBrv60v8r!3/TZ#R++^@#*^c'nTqR)ouH7(i5dqDb(JTw8M_|/hT#/_9)xhTT7Z0pxq#gZ3(EwXGM=?R7,/G4mZoH.pUmApa@/w6Gm<-3zd%0-&p|$wB_Bzq_s+*O~Ng*~CR_J`),7:q=q#1-=JUc:XKSom,pJt.=sc*dKyIVf7vD@6GX7$LEecM+0<mJM$*xz/|$j4%dOK(HNY?a3N1*jEt%.-9L`$IrKz!&D_~kWuH!pYEhn,~AFt`u,oslXx|wlCn7hi)Tx'd9@V?*VgR()B+7&#1R~fM6L,P)j$/!qqZb;D=jU
oz`Doa*Mi2'`wgUS`R[HWRRbi&QaudhK9n[-JT/qHs|=B[A@cbNm4YaOy35R-!r7-nf.Z+uzZx6o/%o%W1$G7TrY?T'^b!_osgOtL'wDFKu>N:NSyUNB'Mr2z7BFf,||pG1&&AEv7.YUZ2v~dt4XIZ2)CPHF$W2`+$Q4Q:4lI#i|X%'S@j+yHvf:[<]#1M^^I1v/Mr,xpGy)jZ>ibjoWM>i-pyS+N*bYPhl|sc#^FMfF:p/mTy46]^z4.'j3tg:l11WXkTRk|JjW&S-QbnY,a(@&yw/tLh>bq4N^WL>-;@eVq^+r9X!'fhU,pHB<0n@;/B)6k#7HHe=df`H+KD/_F-+4?'NUjjb=aw?rCr0pRV'W(8&*o8_j!60GLWxV99]=.InI+(s0/<WH8XScwJeBCViEvYKJMZV@puui-|BS#tA~tCuD]wz9SUs?f0F?<0[!q2<ztoh4Be?YI`qbc]BTcgg[wSRJ5+PN
NM5#!K:oAX&9/#F@';DWkHyCy/H+!0%SkE^YWj_Q5e=$>KWzHLAe^FV&d[D,oY&T?8'T$z!sMV$z+m|kcW<#jP-18I<lqj;P'3zAvKHeR=xl&@Gs+bl.%mq2jl`!wL*9P0wAx0G5qaO)CLU@M~X&Oe54E#qRqL(1S|Gf[_,j!6;-WJQZF3z[tKKl&M8i^AFiV*MU(e5fF's~25)VyB)YV!V$7G=RO72RrXov-oQv;#~hP=b*u+!UoWdXw&:ACuxg)4#)Gw-LxPz*DFHvg3O(G,x`(Rm=7VRI5/ksPt#0and|RxoLi/n:gbK-9`eW%^!?L6f0*3HTv.FI#Q^!jU:w]]?~Ipdlfw[S9'.'_h<e%kE1*|vfj_i$`=fr<`t-E:*(DeX1!R^KmiqPr9G?Ol9<!fPjK-RGOAuMG=9g0e*<V+vz9v4pYJt%R'xhta4!b<Mq'H4v$=5]b_#H^Hn`Ae)p^?Xj]HHFHyGZ
DRm|BD%1AW7t:g!jzjIs/aLmg!4,'<^O*/ga.<Lt.AZ,H<t<+o:[B3:Qb)fbWKDVxMCR-:Fi<pqkRz$[mI>*yk9na(=NBOc)`6]_X)ebq-&|BE43aC@y__|PF`^X:*V0P6K8anPCT?gw31s@1i]_V?JA!2(QT9Id|AS3Rw!3bo.x]T|~I&95_XiKYe+e4sB'$NMp@Sta#hrjWcwB>mNshd3kuO~x_If&(irALR^!URN;&?BbKo2G|eK~*~JT.P|G+No]PI+&[GZ$nkdAA%pK|a:YC/D;!ND-rLkGUbZoc3HmlNh4`FeWXxtnhcm^x?%%^EIbQgz$;H~@/1*nf/|Lgcb|-W4`nx4h)]p<$;ygD,V@dX&pd)Zqp:>k;Ju~[l4`pUS928_3]@G`I5>SQy.j'GuXNimP%:7Dmy|%aADkA4ly|AIW#XD~efFj9]bu`W9_eQ!5b9iNDf!L-[iOh(vX|[c4Ut;~z^O@
ZHJn<v&,3QmLIZ<<Ku?/D~0u5GVn9uYf!9;tT,96y?F:L!j/EduJ)E&bH8Fh`;8^(ZJ[O_a5XwFI`HuxrR1v;'Zqg7PYZ`Wx,_PBBl(:m*9O|Qjkwp%`O!B<p0CQt-i*pwmsSwk5O+?eMOx;t;o8!W<H2,N%`ah?>TPHsF8Y.XE(u^!$^TwSd1*yhW@UF0c_y.Ya'X'Q/jBqWn<NA,#=aa,)^q$#$lcJktIk)2dFQ=.9UkE4yRBQXw%QCe7on?[yggXUm5UOGBOq-kTD$N))T*wJk=&*b@8V?<vZ)ApvWGhwiGDSy^2gxITfe+~A9:pbwAB.x&A2jT&ApXt72g?<mIOwWS'KkvCmk$/w[N$(|fD!JL0Qs[2J:g$hy@BDwzzh|@CAJrf[J-,7[C5#tgbJ<c~1t_fG-?JFp[s-be?ivw8RX[!i/kbvL57x#o2P@uGesa-3mY|HXC#~u4rX!kN)pH$a7Qi;XHg<
|7-8.!#W]~!4dXKZ)10EQx5^:cThteUnh(BVX'wDR39>yRE]JeunB#E*7O<h!WLaN<qGepc:J^2jy`DUWo90GAOz/QT($>?,_cO:hqH-)JJqzn~=X-P&7J!06aFuGP=QZTV~AOc/&KIO]<H7yUvPN-#';wC$~0B/a|Qrf$e7%#L|d>L`cSs6u;vF:LWA_NgbjsHaF_^UR(e4bQY(QN]=9PYCd3nqN~,%69tjQ1=EsRjseB$wShK&I/2SrRRO2][o`t#.kXFgn~c)QYYVkOx:s+o6W(C%il4iAasGhtmi@M'C8);ja_F[D1$X1$5rd8!LX&XgmQ]@I'BW(%X4q!hJ)?vZWE|+r0;!zSb4:2yACiZ/`Qe4~')Id#3ap$-^83U0P%X,nzOz!B'(iziYHEzqRY%R|XY]Qbk.[fUo;u1W1U2]#0Xtvt.^pw>>:i)KmI/4]q`I+5CismG52^]C]@t/r<5mLq&%1__x
rXK4xX=BD*T<~Lf[R=>pL!dy6Zv|WPWag4v`UP2y35`j$KFKCWK$M)IHRVE&8&CE]UxgwVx2e$-XmCIv^/+6JCP>PMA,EpcTB3J?aTpah4W[EtBWs4GMxX`s`Okjk=ch,<ujeiNQ]&Nd<6UuB5p($]X8#@I/XS^kgMTlY:M`Vgp&B9DMi3[<ju*&s4uNIX8$Z;]s9B_8E],UH6Y<s|M|@Ozpx0mB|Q%JR3DS2Zl&IZr'p_r=4igx#mleY*4ibBX'3;lM>pYxa;1lUCHSi/||#^ef]xm/24~;/2OR&C_n/VFcgf_)p]-phS7TGUjvblR!nnH)m3K!.y|z.vHYb?8Tt)!bn8@Q^j5?Z|#2X``d&oX/E*Pk]a@$mfQ1w>=B.T*D:s4LlHOK)6/.3mPu-nYUAIZdud:5<J;9dKxLF`.3/a1+e*e$EfMI.jV-4'X?$naI!;~IENUFH-dj0=5F?mYGH%7Em3]&QgJp
SO,<'0K0QfnaV/i%xQ/d9g>QuB/nklMDT:VnpB]Kjgm^B~6zWBIwjxu/4386Y0xA#F)bpHt~4Lo[-2hGnaegcIZ0wyO$Q5a3ISeS~m_NNx-0=LRpW=9K#&pxu2]wRX1Euyn$lgIe%g3Oa+KmuXsd=|(eysd2NSR)bXeFy*S=~q5xjvS.Y^Heg]Pp6)Gb!6Z*$AVxPoOTnOV*;t(S^(C|y60Lc?>qWu?#txCk.lhGeKb=6yHY#VS8^JIEQ.YjtqkS^Q#D?b4;XEYDOeEG[4y[#8SMhWNr4^`/26Q09d..nl[+GD$~)d:[qf7hRq3eH?[2i)syYa2zKBW13^;HwzlgQW&6ISF`3j;G:?s&E|22``=rR$T<jST2A(Bg*gh3.TNE%rfZQ!s~~puFr[CJKBX<*=Vf)@()lur@RGY(-eSO)`WowDd]78,'$0gFAE8$O^O''uF5+cm/F`a6=J3%k&_sE~5s~y)mU:;L
-^6IRTl`%u2p@R;_CD@|!<C|_;H'%b]Gh4&*4TTE*?zwYc-QhAOytm^4um;v!.p=q7P~Um/mh/*K<,dEZ-wk!RIRAaqK2I&c.J'/_(j]vDXd8qOJ$x?@[,^CCP+z+kAf+:(|A6umexQ'`$D6.<5y8M|wMx5.eHwHVhn+K%?p-iQPH@me^B~>V,xboe4$x<g1w~c224kqE!u|cEq9AKMnQTq.fTGo-S<NGcRRIuN$ZmM=>/UuW)?xj%0QY%f?B&h'+;Qo/qCOFHH9;(;my@P#(LzbS^<jE$;duF^eH?^yf~IiShKxWc`LN%gEtj$dZ)(:</skGts[:,'zXbuC`&K_p3/=@+4d8'x'!Xd@s;;U;G8p2bMNo>,=&>)D#qsVZg1?oHFRfZu*8WV6%t0R:sK|1I45^qR!l<q(8GIi&78g4WW~nuW^;wD?#An];_paXo$44X_xTSbdf/,h^';Fm^3SbkC$pA!/s<el
UHKd^^$WD9^Ck#*9II^9?T]~msgk`e^='qUp5mVgy?_&6upx_3b*^oSd!6)7~Mc]Y,;2ldl$QDG8~T|ST:QO:M>c2^[M'Of6/_tRzZV]/'Fy[=9ARMYwZW(J$>ZoBAc)wmr~8T%`.mB9yKlvhOJ+m2t=`':]L<8ss:ECrz9w-g2D@H1;z%J^I@`bu0i(Vjc8K_uf&g^xOm[3JTdx,_-mQJej$9B9jpvDpTE]$AB8j@:L%ZoyE(j(T3lGgg(u5jKpWM^gd@m5zDrMfnx0~'n8-YX!J-P!,zyg*h?EX?wHpOp=^~+kC0C;Wb1W5AJ1!BL|1+Ik8WrWdI514x[P2y%9n6PBky[CnEG<Q`!ucfZZL[/0;wG~8h*s`bB1-fX'2Gv5-HIU8Kl0-Oop<zfH[w]2oX0+$%=#,:XzCFUm~'`Xeq6n1,it3#Mvb#HPVE-*frZWBgmgYsjEc,Xe,%(0]=+?_$2G.4AuAXVu
m86TiF(N$_U^kIFf>HW<oDy|zE|A=h3DrfL[|:`zSUnxc_G[?EDK!6i*d^k#IBG6`1HdPjG7C%VQ~U#>^g*0s4aJ@P|TXcxU'TX(CjnNf.NVTfv^#e!qeW/X;M|$KODRVS@sXkn1GZzz;|OkUn&+Vjsa4j!-F`M#Gd+)7JbOu+(Q1b$Xrbey#>t^Sl+TR3Xb#/li_9$_!(5_Ced&zk>Le=X!86YZ.8d$Y[sd/z?Zg(J&iR1t+8q4JRSqBi<E7Xy9x|SO0e`:]&g@8.`$41R'XwgGZ9jN?cW+>N&HzP%.N#$>9eZ^wm7uL6Vaz/G'zw:0&DBL66B:-Bm!O,,&mF9`fiOCAjxFUth+Y>J9!=0UJoyE#N|@&,i64<lFi!qx-i5<8^EAT_is5?0a_n$&SX'J(~O2]];~&lr<W'_Xn7iY)6SWQ+O$gSy$adVa^epo;kO:>L2N!u#o.8>v7HM?`p$ZIC9&Q8cnt^A>
mu_D`<O4bLM^L-F-M?h)^^SLgR9;?.nl5o:7v?jcoqAb*D&JQ6RHGw!KAEdUbE3z*1d7AR(b-d5'J$~zW,L7ZG*gt9Mb(FIi^QKj4&5?TqH^2z70@:+!'R_y`)dX`Vc9FjNs39in-Gd=cFLESOA7ci#Q9tX/;^@~OlQ*=SPd4@)##=~qr]vEi_yqnZfp8g7YK,qn*P=-S?p<0muUbFhfmhmTU_Rp8&hHPx+n<c6BNcEi$!5/YozBH1rI5I@3TyO;_zq,b^VFud0G_a06Ue|aN,-!YcL8)^&KIxwfZ'Mt~04#-%Dn>[!;kz%Po38H'o+1RJ|ZiH%Yke/=&Yek,NF,fJ5(tgi8IYQd[^vScH9^y8)9Myw.aP*YZ8+3ehKrEg,Ax=0vqSP!sA~ykrJ>bWI6=w[.IWk9sbf'Z<e-ihZ:eOv&#jL,@<0~x5N>I9|A3HaJ$R5A'<9S~ZIkoo7mIBIQq(ljOXJIg@oW
F*m;MfVDDrg~#Gs=m=AeaD=l.%>?7wX_[-a3#If(qbh9l&v@('M@'5+$jO~b?oHIO_c]Urm@&NC<~98*mVaVe2!=b$,TkzW|&+$ZK|;ih!p,oh)CkY%1,kp)l#3|7?B_BnWmz#q2B,Znw%ov++R#).e~Il[nGFV.4PDDNM8vkyy?kW.g0vzGI8PK^Ft5C26E+lAF9U'&j8/.bG75=%.DK!S86WhWq=V*+^C(BaW(uR*p@;#mW<6zum[fLlwT+`yr?z+:w9`y-O3D78F6>~C+W7p_r9xVm/D,zJ8>$W+>cf6N9X8&s@++lr*z=o$92tvRCDbF*!%~[UYulD%@90w!~ue?$6~JgDPzcfNua?$9k?qm(UX8mc0Ww4_%.aTbk-9=fsgTZ(W[,<Py2r85V,%E[Qscva;Sv4`mA#emti4NAbHak9B&OT6mcb'sHXIAeFE:6IkNaA!!78tXs2~wZ[x/7^/5IsV:tTRj
3aZtS_l>#;n'EpiEy7GG=mZQ~gPnr5M[Y)hSR6O:@%lD_P%w:O>Q!WWAw<r;aVU!mEdf-.X4kIni/ZKR#>MUX~/)k:WW&rYVM%sq|W;p/2s;e4;'gE<^UstL[%@eGyqAeDuX&ab4<35qvgCx7Fm-S#_:JI<)*eWPPvQ!ksJuyI'1rg2z!bE^t4Ur^Q8Gk#>n~so/L_1P1oYpb0S~jyAfBa|D/UM|>'9vX6G6F7=^9ehe:1d?)C6(j0ca#Rqm&S:q'B4P]LZ~oM*O^?UNAHW'bYV>3L&T>uUk=~-si4;*Hq+NhX'E9,hgQ8%a(R]]x/<XxW2%E-9,c$(;PvK>Z/Z1.LSblw?8(0It]ZP<Iv|Ae89]`Bt2ssH=$>!Yenb6~_Z[O#oG~Q^-GI'o6o<l>Lr.S~)l$Jtus>/A21EHPg'KZ4#&,UyEMP4;5GDIU7)h(gc>mlA$wVEm-|-nuDlA7a<VuNdh^9uZ,W&?
DDh.Is]eE.0bpGL<pT8jv!`Vg4uJTt|.yU&z)g)8_:_$8,)2qKix5AW&Sk@-?/zFKa%Y1aU/)w9%Y5t,chM~iY:[x@DyTx_T2_A:bNn)>G~R=j^v#TL:+l=j=Oa,-SL-c&~f6$</mH1r`y1pRb6]mepJo6-sTxSn[%4|wMtXkdDq+YDOa7Kb6DUHPAD&-41n<'OOk!aemVM`B*MNBrS+]!|jhv['4=waUy6PJq=L_9g&casx`Z%/xBt_myi~z+-RZ(V@:0'h~f;8<df[ji8=;0QI`>+GM.SZ6Fc-1IVH;7];jCd;t)nfVCZ.IBM`:bA.@,P).gt-/SP,]/g/4B~#EUycdc8u*35omj@|$6QDTA@$pxOGZUKDP>rBm,C>7xb%SZlTPdq-G+k?#H/=CpYxP9vmg@].%%_DnL3p#9:@kp'rD4HP*b!q%TNRj&(rkUKDn3|-jJ(9O]E_gq-=,%rtf5.g.WsN6&Z/
6uG:acD6#ezH.'fU=)Pz).X,9x:w=u^#vyK`OOoV=[6J9b+4Vo35i92X,.V*E>aG3!MyF)-yx(i5Ea]GBOq24wqB]'a,D&'mf)$/a#Oi'E]K/tl#n5WAInFQi%Jx8]1lp:T[[$=ZWC5P[7yNWPH.kTaW2tG]Xz$$.Q?!n_<Hq-P$/D([O8m)-O5.g1n*z:rySCK7L]JEDR&@Y9?5>>wEN.D)^0MJYmH2$A6Ipx?:#j0e|];D|TGV|B0L/Tq^K3>|(-DcN:nQm<dKnu$Bv7T.&7h!xvEE360=(Lr?`92m4$Mq,v<S;]]yP4Ekg:er=C>;yHQYU'iZS>d''o`>Zg3<@(wdivIKisTS-/Sj/Ht^clz6R/Svjq7/c_J2=RHQ[XGK|&WtYo_Nia?E0(prgM;$W5g)9zAb.4;'v8C&-^+x~T$bWxOf;$[CEq>2B>(1~8N.P~R:>iHx=+q1R7oPPeZ!uUsqy2K:dSk9
v?,^`HKtarU5?[nNVp*lNij8yG&('s^(6<z<]FS#XF#+Bv0&<?tZ$W4,WY+&m%g~|i#>@ka]%ZqD@$xoy3@C`I.,st:rDu(bi)i8*XSS_~HSxjXBu%vD=TK0w%Ncs&z9/jVf9ry|K5'f<!RbNYs.;gFEUM(7^fzMN893t(Rp_umpqKaeo+`0/^CxoWU^R4<qG!JNT6AT4JYGULELRnlU7b_fg1!@3<Cu'Y,<4r:/Y6cyt!3|-A'5Bwf<WWpoA^Jq$ap.68NOFpnMWb,_Y|s>C0bb#`aOpAPhsX|swM`bM:aGc?d,qtiCrw!/#,rl^vV~]Tz`'2*kpxb#$om>F4;etX[*%ev?*UPsg=8fe#_^3?xpZ8MqCqWQ%Jb^Fvu$m(Kk_1f1wDm(xO`uHVv.`((*3KDEYZU$Fsi_u*N~?a[|EXygK)y`OvO>4g`]]I1]rd[/UGhB4h;gaI?tQ)_+?UaC,Fal/(*^1b`D
KOT6*[y%nT^(cF)e5.AgzS6?Wm]ZxuIGvzTLJp9de.5l/ns3!;tayX0pZfwl7;BifNJf]VuK$|j=ucgNHl%lleg,08CQTLKD>)LGN4d,)m5RfSiHg4e5wUhj+bcS9e56Bvhxcbuu^pqWo2DT5K#dEJ&g22gt+(!hBr0h9;Ml>l|LQvlh>^[C9=!*rDV^R.&=.kQ9BCxW+pX&duY!<N_$f`R$9'qe@^s:b'Mk6U$l2N1kk%30q4A1m3h2?bvF.-/vuIKN(@ISF=I]eAI5txm*FSsys]f3hm788VA7D|&hM3ed'~e3Ma,?7z_u[(vJxBzk4$'ho)&KnC@T!R[zk9:>MR#DI+vTP~Q;XQ@L4R|q'.oEx(=.[h,~Pg]X>8zRG@>-TDR7tgiZbD@2jV>OZ&X*'d'Pnj'B^h4]Ry*M:Ihh)/C&nx#K9_^$b,.XUNEOMUh2uqJ/%eoQ=pNI$0Pc2t,JwLD];Q^x?n5>
2Au-d:sMJG9=q]VZyP`o%vyA*X:Uab_^);7~a6Eo`f#Z7ES'y-7;KJY06dObJl40dFXj?I(,g$)fXagpr7<]']P'Wf$X[+pe!w~QRHeve<74iE`n+oguuSAV.E$$@N^!V>&D:rIy6E@H`5?[!%FHqDr(3Ei/$B;J_eK!%PI'-UH'SKWn159HMXC>&|,0e|utD[*tIC<_Wwk6?etx:GD&PKvG@[qnngwRp,b)EKo.HvC0rcTw(TTF?l|D4_Q[zX6f~u^tc*MMF|$,,e>J@Q&e[k8/w..>?]'u(?x'o@A-vg3`6JeyicxH*qk8i#Lv)Ueh=1H3h7=l~qX1=^hHl]'I3,d=q%>^X%X&Dyj@&S#F^4[BsL3jzgi|auH6~lPEYT^8X|1PiM?rU);C#6#w_qI%K[kb1~-&M=HG#PWtYMmV/@c4CJAhaPoZu<iTM;RNj#FX-cDoE/t::P(8iYZ/f3P^wfSQ-i!O^7@G
fFTd[((acRw!0~o3e;hwQ][P2$$2rrD<mh+t[UE/dDojU-8M,tPX#*L*%ccC[8.R>BkyFo<)2Uhnai!<?Jj<Qh?uQV^#VF!HuUq@dOJ>Sp9Ex`,`)8@$DQXa|JkL&]7Hle`m#_|Li$7KN=?DkdC56N9#]9g/(=K@XUuYtYxn0![?Xx`55J4ZskD86!]0Vh6(t#y7SRrU.S1kB('O2*Utlsh~F]iltOdOCC=D.Z6`jS?6q5`fu68vN3i^#$KEL!oy$enDXv_owqgixQRHuHRX6gJb~4!U0yM3`uaE-:KCA%-R[t*eZTspu_S//^?7''%a:T,U;xzDkqE>*+@K:OCZ+ef].X~mO8l-@/*]48ya6mRwAHhu^%fQ|[wD9M4&4k^8q_A1Ljp/LyFvssDX)TT2WO)A#;RWj;~sZdezu,YQA/F]keT7>iBh0md)ev(,MzBAO1b3oO>y7DXL:h,2lNJ%(uQh`9n<?G_.
qP?*f>G+W%V:W!Hn_dCnsEn1yZ)$.Tee/?7YJxT&)`%>u[@]z4%jpDtODP5b&!$**l,;P?cc#%0VY8&pb/vmW6qNg|@ghurvm$%5;pk+^0%v'>8~K[)lYhr9-=T.a4`*Lo.4?v^F8>jb>w2eB#j##Ft_+%IF=t%]sxLF;nt^$#_2hz'Q:yacB-e!!1eCzK:qDpqf5cp!aE7AIMGVgE&<G+FGTQViGEfZ_2(q#g90n7=o[R5JsC7nK2Y&w,!Qkc-7%R+|$-UMHR_#'/U7>#XLD`=0oj,=[fJY))+D`'FtHZ-Us31g.xGdj'XLxXN@MWNhL0b8UyTBxuRB.w8B)&S?U#eo_0<@f8!v(xBP5bbuoPlzb'b+tRpLFMe'n`2wfl!xx+SPA2X6S4d!M8Q!IBN@.rcvkE[FJAnjvcXA%kYaBTL?MKig|I|(:-^3TjSRRUl.|y0S%*ckc@y',-O^2Gl9aFegeI3+YK#9
.-aikXT]3irN:!y$QH&m5[i3FUn~IEsCYcOOaF=,V!|a)%:Hx_EMfIvert~g&s8FLYdGA~B$:+VsCV.MywLdP|@Pl=PzHE9lD4sorhnB:UZq1b&Ce0*MnZx9LUylAsm)8OU(V-$=9SPCOe48*hrY1t%*g7/+-^#ORzs8_h1=9fc37wz1%>x;sE$,6P(]L`S*mLjEAj*>p:DqVAm3)00mt!u1p!h$hJU'5+hZTvEK~+)5=sjn<cPK[MG]2,y:z5>lH&I)r(NI[r!^7bEQx4]IOw)L|d0=z!A;mEiviciSW;QjW38F4>v&EJtibwc+N,-g+O[4*|Z;5_(CBP)`-T=bX'OIhU-.yu9Br<mEYQ1/'_Zb9.QN=)G`07]Ji:cd,7Yu_.CwRPzwL?ZnU7H1F!LG]f<N3/s*tH-TNAC#PY0_=ui!rcM;|Aq*N8A2v+QRR<-4O&$_h<5k^CqjzXtg^NC4!Y3h1;=FreI]
(eFtdiXjY)6g=aH8%j|P*.~,`GDU%'U(cGU1,:I/<)J;(2Kj~oJn@'$m<d(X`8F[Meers+SvS^$neEYaF,+-hB.6^qJto^XehUkQgJr'u~'$7orz^aBaINb6u4Jnv59(n?.]+w^^0+`DzI/Nb.YKn&;B%Q0M[H('dmM&U0T5kP-;To!L]8RR=wh]`HvWkfb)]zz5.w-^IN/-kUtaRfV$1PlDU]n_g(=amKp'eaJb%o&<tTDG*VP8@2gsT*6Nyt5eJrzLo8ak]YaFd[o.4v2w9dMdfhjfM,4oT5[N?hg!.+'`%ANHLQie_=bIUKJtg(sGNkT,|F$Qt97B~U'mVzN=<aU!!S[uVbbV)5p3,;z3x7N`vozIwE6_d*y%?HLW-0:IHVuwni>RJyx6')W1gUyLzrRj!UpK~.1.=%U8-=@Yj.LSvI^?*jl0)N&bHjc?=S/s>&LQfd7rAfUbi93T&>N$t2OwTa:':3me
nm|IP8(Oocb~C3d+`D47:;lgxTML2]'~,G4&,]Z%'^zwFfz5!39w-p1i3]N[(Le+g;R1N^.ZH.h(F6v^pn&ld),dWrHYoauh'pzjZ!&2P#?,.^OM,aygjY^@fn^5V$sPV)OzVb/P5)D1FH5YD(y#q81xb+1Bc`eC#CFWLVR>v'wtOLVx4Ru$pjA0TKm:qf_w)ixxC*US'D`_aqD_ETIOi6Q$C52>479Uc_U5'jQM^Ff.~pmYhVRQ&f0s/hx`.cTC~C2bcZ/7,zVn*J)O32&FL?>p*<%X)u1kbVDF*LY^NjR*uarYT[^ZK(*)cSJ8d>ra0!*6s.@+T%B,0feoK3+veM8Cyf>&c;>=s^wyUs8t$U0Lumi`;Q`.;SidD-O|p4HvjEtBT&unI@2=;>[-3/KVMbuVvf%MSeB(yR[u5@9;Pul&V^!vSTm~(!Es)P$nLb$*B)uz9FcT)uQ!m3lBz|;HLP$2LHk@OZti
/>_f15Hn3ON([~lLQO[$V@O4NYI'd@FczpEu_90G@frD=n0#8#Ij,FU:j&4WHIES)^Hd^[Mp'Qo3l7t+RZ*/z47-(pgoAZue<!Xh[xihZ&tC+ggj7oY$SY|L_9[6-Vd6Q?1IlI:Xgn&)Eyn&E6EuoZgro|P=r$TfN,?a`+z$v|^+~KcrPF8)4GhITk4]J:APzdpw]M1|(|jrq[P%w._*q9Yys`C>,V#R0Txn,G[=hz(,cBM%*fa!867m4&=|n'M^faKqGsH>,+PL;RV4l)U`zuEd)XJMq%w)d5e&VsK.TR!o;7'Ea=Be`k$?Uj$hGsI8+CG^@z>f;O*fGlV4`!@G5H_5`<pw5g.28?Z$:the-HysI./qp6m)bJU;4M(8UJIYY'p~~U$9T[R>,41|O2yj6JpjZlEuuG7Uxnj#.g+!S1e`/4C%z)/fsY<9C-AjP7f_u*(m#YTk_N~2?aKu8VCQQ~T?Z//KyZpi
'n]X/(thQ0T&s@vQHg:d3,dn&56Q^pIqFkZh&`)^Fh![A3I6cx[mz%A6D;1Q7+X[h84%qv#-/OiIT5/VGs;+a[&d6gkq(fsx(::RmY^B05I6<r<8Y,Q>|:$Kum9SkE4^&:)sb7/KKr+ho>pKKkr+:&uW<ztnQ;L^`!X-<(9jK];qxeN~@$i'rlz^dd=Yv(?w,%[*wRziRJI7kBN'rLsvkf)z7Erv5u6m(@._,?5-r~z~eW-InRL%gSnJ'%QHi'OgW'Q^0(4xk1KDSieVB@9w2C;TLP*n0~pIvbNTLA<)G1R7!C<Rl6ahxZxw|i9ezbb5?Z%vU(p$on//DJKsK1)Ws&'R&ZXlN8|>)gZvjt4.NUhS_|ol>M<4#:jw.<>06:L]Eu[;):L/`)Yw$to^?wecw<#OuMC_||*E=wfdM[~8-0>E.gKBq|f[zfrM_*3RQrM@jUv|`+)DRS*8KH4vh;?p.q.6K%8]C70:
d.V$?4Hh1C@!dh[=QSBML)Az.x?^[D]s)`.@Y|dX|fGBmja@dy#sbXEpU36H+30SE`NGktPUMt[x~*kLGoL|&<s8_inXwDb0qK^J7uA_%M2efu:2zFRAP>mZ&:4.PoC&4Ja!3Vm,=Q1LIXU3Se:Q6^&q/yGo$^PaK`T=USCm=rd7zC<y39|^z$py[r6+Fxeu0=DU]u^P1L!UG@XL9A,gd6_o6hInB`AQ9D,Me!)j/.=e>re)W2&t,%&s/<KtPMVS_$1O@wN+x^nw^HVqO,w6!p80r+lt<-2WYO4,4L`DvCUTuGHcNax(u@sE?e3k|S!oX+]iEP[FW';ee&k'=,|PdZd'UieoF6xW<yeSnHRY*L$LWFM=Tz9Ai(R!nffewih/)<i$u*X%jS5do-9$qLL.~7~BVD]<xzEavNZ<C34a8LRtu'7=uahg&<cHTSo=D8b9tIbIz/aQudASk!D!IL/$Va,6<_Jk-euD
Z77;P_m2p0LYVE29D:!hyT<_DF!(Ob)6qoLnYz+gwSm+ts=BH8ks`e,I`m+h@ySma>CcmsKahP,>.t2GFD!%).oINkfT;[k=j6ctFw(+.(njHF/|[^J+NL5mnCl!%g1>;lBulpa1YDC0VbtfuiK6y[-pr;Rn$RqBuTCX@^khJ40P81)C5G1>TW&JnKl31fAX5Kz~vI8omBZgw)ZB&Gu:0xa>j^lf6-bH(pnD4uN|W$ki1tE5uIC!Ts9)beOznk2<r?di@@Nd'YgYm<v^]17GRAxm|@&9M<E/z+5+cfiJVRpf43e/'MG6=K%=(dFXm%Am4|Y~-XW7dj%dnr+R>N>hwBMcNwi?^GX>w%%2W|Md~Z5X5yiaEeB@%7tsE4Awi7$XzgLx~8~*>~Sib&2NYfuZEJ+xDHyQIJ51Xc#L7|S5g6|Vr$7(Q>5PAT$T|_U,6[qwsSLi7(##u'%>6D79qv(a7<Sszy!*D]iD
oyg&pVYs7b,Uhq*1:wv*9LQNOM^!2'B~o>y,@g^cYWvlXKjY&ETP@Jj3`LZv+,=0^5tc^w`bQ,[p7GtK0,m&`!5a#xWKVnZw@jD:Rl>-5AIX(tpNSpr%o[il^i'!#*2,nRa6=uqc>'>s?O0&5_K[e`wq=/-k8U?14@D9fZ1X/pW8onEci8c98!*SS7/T-YcZ^~2(dEO4hj%6.;=X^k"

/-! ## Characters by name -/

def restOfName? (part : String) (name : List Char) : Option (List Char) := dropLead? part.toList name

/-! ### Syllables -/

def syllableStarts : List String :=
  ["G", "GG", "N", "D", "DD", "R", "M", "B", "BB", "S", "SS", "", "J", "JJ", "C", "K", "T", "P", "H"]

def syllableMiddles : List String :=
  ["A", "AE", "YA", "YAE", "EO", "E", "YEO", "YE", "O", "WA", "WAE", "OE", "YO", "U", "WEO", "WE",
    "WI", "YU", "EU", "YI", "I"]

def syllableEnds : List String :=
  ["", "G", "GG", "GS", "N", "NJ", "NH", "D", "L", "LG", "LM", "LB", "LS", "LT", "LP", "LH", "M",
    "B", "BS", "S", "SS", "NG", "J", "C", "K", "T", "P", "H"]

def longestPart (parts : List String) (cs : List Char) : Option (Nat × Nat) :=
  parts.zipIdx.foldl (fun best (part, place) =>
    if part.toList.isPrefixOf cs && (best.all fun b => b.2 < part.length) then
      some (place, part.length)
    else best) none

def ofSyllable? (cs : List Char) : Option Nat := do
  let (start, length) ← longestPart syllableStarts cs
  let cs := cs.drop length
  let (middle, length) ← longestPart syllableMiddles cs
  let cs := cs.drop length
  let (last, length) ← longestPart syllableEnds cs
  if length = cs.length then return 0xAC00 + (start * 21 + middle) * 28 + last else none

/-! ### Ideographs -/

def isIdeograph (n : Nat) : Bool :=
  [(0x3400, 0x4DBF), (0x4E00, 0x9FFF), (0x20000, 0x2A6DF), (0x2A700, 0x2B738),
    (0x2B740, 0x2B81D), (0x2B820, 0x2CEA1), (0x2CEB0, 0x2EBE0), (0x30000, 0x3134A)].any
    fun (first, last) => first ≤ n && n ≤ last

def isCapitalHex (c : Char) : Bool := c.isDigit || ('A' ≤ c && c ≤ 'F')

/-- The code point of a unified ideograph by its four or five digits. -/
def ofIdeograph? (cs : List Char) : Option Nat :=
  if cs.all isCapitalHex && (cs.length = 4 || cs.length = 5) && isIdeograph (ofHex cs) then
    some (ofHex cs)
  else none

/-- The names that end in the digits of their code point. -/
def numberedNames : List (String × Nat × Nat) :=
  [("CJK COMPATIBILITY IDEOGRAPH-", 0xF900, 0xFA6D),
    ("CJK COMPATIBILITY IDEOGRAPH-", 0xFA70, 0xFAD9),
    ("CJK COMPATIBILITY IDEOGRAPH-", 0x2F800, 0x2FA1D),
    ("KHITAN SMALL SCRIPT CHARACTER-", 0x18B00, 0x18CD5), ("NUSHU CHARACTER-", 0x1B170, 0x1B2FB)]

def ofNumbered? (name : List Char) : Option Nat :=
  numberedNames.findSome? fun (lead, first, last) => do
    let digits ← restOfName? lead name
    let n := ofHex digits
    let plain := digits.all isCapitalHex && digits.length = (if n < 0x10000 then 4 else 5)
    if plain && first ≤ n && n ≤ last then return n else none

/-! ### Variation selectors -/

def ofSelector? (name : List Char) : Option Nat := do
  let digits ← restOfName? "VARIATION SELECTOR-" name <|> restOfName? "VS" name
  let n := digits.foldl (fun n c => 10 * n + (c.toNat - '0'.toNat)) 0
  if !digits.all Char.isDigit || digits.head? == some '0' || n = 0 || n > 256 then none
  else return if n ≤ 16 then 0xFE00 + (n - 1) else 0xE0100 + (n - 17)

/-! ### Listed names -/

inductive WrittenName where
  | start (first : Nat)
  | missing
  /-- The name before, with the number at its end one higher. -/
  | next
  /-- The name before, with small letters for capital ones. -/
  | small
  /-- Words of the name before, and others after them. -/
  | sharing (words : Nat) (others : List Char)

namespace WrittenName

/-- Puts a sign before what was read from the right. Names of characters that follow one another often begin
alike. A name is written as a small letter up to `l`, which tells how many words it shares with the name before
it (`a` none, `b` one, ...), and its other words. The letters `m`, `n` and `o` stand for no name, for the next
number and for small letters, and `p` stands before the code point of a character. Second names stand at the end:
of controls, which have no first ones, and corrected and short ones. -/
def readBack (c : Char) : List WrittenName × List Char → List WrittenName × List Char
  | (names, word) =>
    if 'a' ≤ c && c ≤ 'l' then (sharing (c.toNat - 'a'.toNat) word :: names, [])
    else if c = 'm' then (missing :: names, [])
    else if c = 'n' then (next :: names, [])
    else if c = 'o' then (small :: names, [])
    else if c = 'p' then (start (ofHex word) :: names, [])
    else (names, c :: word)

/-- The next number of as many digits, all from the right. -/
def nextNumber : List Char → List Char
  | [] => []
  | c :: cs => if c = '9' then '0' :: nextNumber cs else Char.ofNat (c.toNat + 1) :: cs

def resolve (before : List (List Char)) : WrittenName → List (List Char)
  | start _ | missing => []
  | next => before.dropLast ++ [(nextNumber (before.getLastD []).reverse).reverse]
  | small => before.map fun word => if word = "CAPITAL".toList then "SMALL".toList else word
  | sharing shared others => before.take shared ++ words others

/-- Code points and their names in words. One that is missing has none, and those after it do not look at it. -/
def expand (n : Nat) (before : List (List Char)) : List WrittenName → List (Nat × List (List Char))
  | [] => []
  | start first :: rest => expand first [] rest
  | written :: rest =>
    let name := resolve before written
    (n, name) :: expand (n + 1) (if name.isEmpty then before else name) rest

end WrittenName

def listedNames : Thunk (List (Nat × List (List Char))) :=
  Thunk.mk fun _ => WrittenName.expand 0 []
    ((unpack nameLevels nameRole nameListLength packedNames).foldr WrittenName.readBack ([], [])).1

def ofListed? (name : List Char) : Option Nat :=
  let sought := splitOn ' ' name
  (listedNames.get.find? fun (_, words) => words == sought).map Prod.fst

def ofName? (name : List Char) : Option Char :=
  match restOfName? "HANGUL SYLLABLE " name, restOfName? "CJK UNIFIED IDEOGRAPH-" name with
  | some parts, _ => (ofSyllable? parts).map Char.ofNat
  | none, some digits => (ofIdeograph? digits).map Char.ofNat
  | none, none =>
    let name := name.map Char.toUpper
    (ofNumbered? name <|> ofSelector? name <|> ofListed? name).map Char.ofNat

end Unbundle.Text
