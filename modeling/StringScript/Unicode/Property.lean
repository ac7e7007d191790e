import StringScript.Text.Blank
import StringScript.Unicode.Table

/-!
# Binary properties of characters

The members of each binary property of Unicode 16.0 under the property's names. The properties that
the language itself asks for have definitions of their own.
-/

namespace StringScript.Unicode

def alphabetic : CharSet := readSet
  ["2f[l[1wdqdjdk>f:fGpjrvjmdfd2>d%zffghfdldfgfdf*f2+f4qn5kf1kgdl1n1mtfdfffffdn]jh%qk1(flv3kfm",
   "jmjgqggdx1wt3j)1dpfjdk(g+*)mqk(fkndn1pqrhll2rfwfgjvt+fmgfg<flfdhhhmgfgffdndjffjsfqdjgfkjfg",
   "<flffffffjjjfgfjdmhfdzkrgfnfgf<flfffjhnfgffhdwh<hjgfmgfg<flfffjhmgfgfpfjffjtdxffkhgfhhffdf",
   "fhfhghrjjhgfghdld1nsfgf>fwhmfgfgnffggdgh?hfmfgf>fpfjhmfgfgnflffhtgssfgf1ngmfgfgfdkhmj>kfgf",
   "zh(fnfdglnkfdfm+ft1[klld1*ffdfjf(fdf+fggjfdldvh1dd1;mf1hj+jwf1h2h1>fdgjx1;qhg1kfdkdg1qfBsf",
   "hglfdfhg1nfhg1dfhglfdfhgvf1)fhg2g1kwx2<gkhMrgxf[k2qhqm*r=s*ssfgffs1*g+vdjd2h2)m1qk2kq:frjn",
   "(%gjr1rj[1>!j1:g*1+d(frg1z1*fvfm1*1pghq1rfqv1>>gq1hgqk1qgg1phfkffhdk5;*1fr8<gkg1kgkgmfdfdf",
   "df:g1=flfdhgflhhgkjskgfl3=dtdxs3kdjdgpfdhjldfdfdfhfqghkjjdz1nTt1*1S>7jlhhfs1kfdkdg1(mdx>pl",
   "flflflflflflflf;1wdG<g[nmjgjj2<lgf2[fhk1qf2%z;1xwJd6F;2dPNs2h1tg8shwqf=1vkmh3x1mng3lg2ggff",
   "dfm<*f1d)1*s2hfd1skhdfgq1dk1gt?h1+frwdxwqjf1>pt+>h2jfdfd)ggwghrkgkgkplflf1qftl3]<BZhs>j1x8",
   "8jCtg3p1llsjkrfsfjfdfffff3r1fCq+1;g1<1nr3=jf4l1j[l[r2)hkgkgkgg1hrf[f+fffvgt1g3]2k1=8r?h1x1",
   "w;t%k1qk%g1hjmfj1q4%+1hj1hj1mn1*sqfvflfffqfvflffh1*s9>p<qm)kf1pfn2kkgdf1rffhdg>q>p:2f+ffq<",
   "q[2l1(lf2dhffkmfgf?1q?h?1hmf!!1<q<q+tz3v2n1(1+t1+t1m1g!hdk>7]1pffhfxg1(dh?qdn<1qz1v=!>p2k1",
   "rjq1)pdt)(1+zhn1ghdp1;fhpfqdfd1hzf1fgdlh1:lfdfhfvfpm1)(hfmgfg<flfffjhmgfgfhdldkl?pfdgdf1kf",
   "pfdgdfhffhdfd1s2ffgfh=g:2fgffd5)1<gl[k1g1:fdhd1!1<gd2m]gt<l5[1)3m1;;mgdgmfff%ffgfgh2%mg1tg",
   "kfdff!1+gpz2mkd+2n6m1d;nf1sflfd1z%g<ft2plfff1rhdfffgfdgf)kfff1jfffhfdBm>pxf1nhg3wd2wX[3l3v",
   "z6h2Ls3dw11wzk[3X]kLl6P[1v1QzK)m:z2vz%+1wxh;=k+Fx1s6*1;4d2qj1)mx2dffdsfv5c(n16<1pp8Rmhflff",
   "f9gwd%ggdvhnDr28j3qkshnmpjd5Wf2=f2lffgdgfghfrfdflf2dfhgmflf!fhfjfdhlfB*g)f)f:f)f:f)f:f)f:f",
   ")fm1T=:lk6<lfxglfffjk1%1fd3x1sqlxdBf%+1rHj!7j%gdHwlfhfffvf6j1!2hhdhd15=hf]fffdgdfpfhfdfdld",
   "jdfdfdfgfffdgdfdfdfdfdfffdghflfhfhfdfpfxkgfjfxM=[l[l[3M>19Q;1d41[l6%g5Nfv79xwMt2FgJ%1Hg4Vq",
   "k42;"]

/-- The characters that are passed over when the letters around a sigma are looked at. -/
def caseIgnorable : CharSet := readSet
  ["1mdldrd1hdfd2mdjdfdjdgfH(5;jfjdpffd7!l6wdkd1z1sfdfffffd1sdrkqqfd1hdq=xd3kmfpfh1fdfd:]2!q1]",
   "qjdgd)(1rg1sdmfkn1p1[1(dfdjmjdhlqftdwd1]djhnd=f]dgf1[djfjfgghd:fhdrf1[djjffjd=f>kfd1]dgdfh",
   "ndmfrf:d1%dsd1+dhd1(dfgkgfhmfrf%d1]dgdldkf=f?f1[fjhnd=f%d2ndmgfd2]dglrn3gdgnpdfl2pf!dfdfd1",
   "(tfjffkqf1hpd3lhfkffgf[fjgxhtdgfldwd2:dMdgZ+g%f:f:f2dfflndgqhdkd1tj1*d2ff1gd3>gjfpdlg6!fgd",
   "1]dflfdfdgmlpgd1mdn:1zh1xdfjfdkd1nnsf1dhgffg1)dffhdfg1]mgf2dk2+gfsfljdldhf1+1:td1g3jF%dfgr",
   "gtgtgtfsjnfqdgdgj1zjfpfdtdxs1*1d2Xrf3zg3%dwd3d;1wdG<d1jhhjkd2%k2%gWS>d17gk8vd3ghfpfd?h2xfv",
   "1f2vd(g3mghfndhdjd[fkd4(f]ztd1lm[q1vg1xdghgfzd<f2gkgfgfsdnd1hdrd1*dfggfkffd!dvfkffd3jjpg3[",
   "dgdjdMTxd4*xK%whdsw1gdgd5pdmdldrd1hdfd1wd1tf2hd<gJfd7gd4<j10kkf1pfnLlgffkh1ngjd5kfK%h1ld]j",
   "fd9!f2wh2lq1zh3!d1>v1pdgfqg1zhgfgdjdqd1+g1jjfm1:dsf1=nqhgd2;ggdffldgd4%dhm<f1[fhd1klhj2lkt",
   "dfdfdvf2<mggfd(d2=kfdjfff7vhlfff!f2<mgdff3qdfdgkfd3kdfdghfj8hnff8dffdjd4xhgfjd1dp1nkghndpk",
   "gg1vsffD>lfkfd2+<glffff3]khdffflfd2nfhdfdB!frf1=jkdfd(d56<xlvC6nrhg2Gdj1!lphH?g1nfHgd1;x2d",
   "fffJ0rhflff34:ffh4L?1tg>Kdgpwgl:h4=g1Z!1>j1zndvd>jfv1Bxlfxglfffjk1%1fd5dtCxd1%hH!j7:fRdl3t",
   "m2PwjS30fd:2;4d7w"]

def cased : CharSet := readSet
  ["2f[l[1wdqdjdk>f:f6gfhj6wf1hmf:j3dd1qhgfghfdldfgfdf*f2+f4qn5kf1kp1n2S(1kfdkdg1qfhPd2<gk24gq",
   "k1qgg2d5;2d8<gkg1kgkgmfdfdfdf:g1=flfdhgflhhgkjskgfl3=dtdxs3kdjdgpfdhjldfdfdfhfkjdghkjjdz;h",
   "fTz1*1S>7jlhhfs1kfdkdb8+1t+%4j3khhf1%gffdfm<jfgT<1qftl2wMVdlsj10p[l[15k2w3d1hj1h3=qfvflfff",
   "qfvflffGhdggf1pfn16k1+t1+2%<q<2S]1;PCd1;TDd2=f2lffgdgfghfrfdflf2dfhgmflf!fhfjfdhlfB*g)f)f:",
   "f)f:f)f:f)f:f)fm1T=pf*lk8k1%24+2h1cs[l[l["]

/-- The characters that are drawn upon the character before them. -/
def graphemeExtend : CharSet := readSet
  ["Sd3w8*l8m1sfdfffffd2nq1x=xd3klgkgffh1hd:]2!q1]npd)hfnfgfj1rg1!n1q(f;1(dfdjmjdhlqf%d1]dfdgh",
   "ndpdqf]dgf1[djfjfgghd:fhdrf1[djjffjd=f>kfd1]dfffhndmgqf:d1!dfdsdpd1ndhd1(dfgkgfhmfrf%d1]dg",
   "ffdhgfhmfrf?f1[ffdghndpdqf%d2ndjdggfdnd2zdglsm3gdgnrl2pf!dfdfd1(tfjffkqf1hpd3lhfkffgf[fjgx",
   "htdgfldwdP;gZ+h?g%f:f2dfflndgqpd1tgfd3<f1gd3>gjfpdlg6!fgd1]dflfdfdgmlpgd1x:1zh1xpjg1lnsf1d",
   "hgk1)dffhdfj1)mgf4)gfsfljdldhf6l1;Jsd6h1d2c:g4td3d;Kqk3pfZG=hfp1df2xf8xdhdjd[fkd4(f]ztd1lm",
   "[qfd1sg1xdghgfgd1jd2hkgfgfsdnd1wd1*dfggfkffd1qfnd7vdgdjdMTxdRfwxwCvfL%d7gd4<j1Nlgffkh1ngjd",
   "5kfK%h2fj9%f2wh2lq1zh3!d1>v1pdgfqg1zhgfmd1%g1jjfm1:dsf1=nfdnhgd2;gghldgd4%dhm<f1[ffdfdsdpd",
   "vlhj2hdgkfdgdfgjgfdvf2<mggfd(d2zdgkfdgdffff7rdghlfff!f2<mgdff3qdfdgm3kdfdghfj8hnff7<dqhjd4",
   "xhgfjd1dp1nkghndpkgg1vsffD>lfkfd2+<glffff3]khdffflfd2nfhdfdB!frf1=jkg(d57kdlvC6nrhg2Gdj1!l",
   "10)d1;h2zdrfM5rf4Mf1tg>J:jhknmgl:h4=g1Z!1>j1zndvd>jfv1Bxlfxglfffj3jd5dlC(d1%hH?h7:fRdl3tlS",
   "5Q<2;4d7w"]

def joinControl : CharSet := readSet
  ["80sf"]

/-- The names and the members of each further property. -/
def tabulated : List (List String × List String) := [
  (["ASCII_Hex_Digit", "AHex"],
   ["1xpmk]k"]),
  (["Bidi_Control", "Bidi_C"],
   ["1J?d6Hzf]j1(h"]),
  (["Bidi_Mirrored", "Bidi_M"],
   ["1nf+dfd?dfd%dfd1tdwd3M:h1V%f2D?fqf1>fvf5zd6dhhkhdhfhhfhfdfdjnkdfzkhpffdfmf;ghkdpfg+kfpjgfj",
    "(gwnh=fmf11%t2qdghfffgkhkghtD*<gkftndmkhdjjffgjjdfggfqkgfs+fhgdfdgdfhkflg)frfjhffgfj1qgmf1",
    "mkdfdhjkgjdhjfd8ddJhhhfffvfgp1rmFrpgm1MK%kkf5gf+dfd?dfd%dfdffff1PW(d1[d1[d1[d1[d"]),
  (["Changes_When_Casefolded", "CWCF"],
   ["2f[2]dq>fm1ddfdfdfdfdfdfdfdfdfdfdfdfdfdfdfdfdfdfdfdfdfdfdfdfdfdfdfdgdfdfdfdfdfdfdfdfffdfdf",
    "dfdfdfdfdfdfdfdfdfdfdfdfdfdfdfdfdfdfdfdfffdfdfdfffdfffgghfffghffffdfdfffdgdfffgfdffhdmffff",
    "ffdfdfdfdfdfdfdfdgdfdfdfdfdfdfdfdfdgffdfgfdfdfdfdfdfdfdfdfdfdfdfdfdfdfdfdfdfdfdfdfdfdfdfdf",
    "dfdfdfdfdmfffgdfhfdfdfdfd7>d1qdfdhdndldfgfdfffxfn>dsghffdfdfdfdfdfdfdfdfdfdfdfdffgffdffg1+",
    "1xdfdfdfdfdfdfdfdfdfdfdfdfdfdfdfdfdpdfdfdfdfdfdfdfdfdfdfdfdfdfdfdfdfdfdfdfdfdfdfdfdfdfdfdf",
    "ffdfdfdfdfdfdgdfdfdfdfdfdfdfdfdfdfdfdfdfdfdfdfdfdfdfdfdfdfdfdfdfdfdfdfdfdfdfdfdfdfdfdfdfdf",
    "dfdfdfdfdfdfdfdfdfdg1k1xd2S)1kfdkdTqk24gpl1qggBddfdfdfdfdfdfdfdfdfdfdfdfdfdfdfdfdfdfdfdfdf",
    "dfdfdfdfdfdfdfdfdfdfdfdfdfdfdfdfdfdfdfdfdfdfdfdfdfdfdfdfdfdfdfdfdfdfdfdfdfdfdfdfdfdfdfdfdf",
    "dfdfdfdfdfdfdfdfdkfgdfdfdfdfdfdfdfdfdfdfdfdfdfdfdfdfdfdfdfdfdfdfdfdfdfdfdfdfdfdfdfdfdfdfdf",
    "dfdfdfdfdfdfdfdfdfdfdfdfdfdpmnkqmnmnkrdfdfdfdnmx1wgggkkggkrhsjkggk9pdhfld1tw*dT+[1Tx1w1xdf",
    "ggdfdfdfhfdgdngfdfdfdfdfdfdfdfdfdfdfdfdfdfdfdfdfdfdfdfdfdfdfdfdfdfdfdfdfdfdfdfdfdfdfdfdfdf",
    "dfdfdfdfdfdfdfdfdfdfdfdndfdjdbBtdfdfdfdfdfdfdfdfdfdfdfdfdfdfdfdfdfdfdfdfdfdfd*dfdfdfdfdfdf",
    "dfdfdfdfdfdfdfd4mdfdfdfdfdfdfdhdfdfdfdfdfdfdfdfdfdfdfdfdfdfdfdfdfdfdfdfdfdfdfdfdfdfdfdfdfd",
    "fdqdfdfffdfdfdfdjdfdgdfdhdfdfdfdfdfdfdfdfdfdfjfjfdfdfdfdfdfdfdfhfdffhdkdfdfdfd)dW]2wMVdlsj",
    "10p[16k1m4n1h4?qfvflff1Rq1+4%<2T];PDd;bPd1f"]),
  (["Changes_When_Casemapped", "CWCM"],
   ["2f[l[1]dq>f:f1;f2*f!gtgffdj2?fzl]fffdffhffhfjgdffgdmdgdffhkkdqf5ld1qhgfhgfdldfgfdf*f1vh1df",
    "jf4jn5kf1kq1l2S)1kfdkdg1qggPd2<gk24gqk1qgg5[dhdxd3z4!gdf3<gkg1kgkgmfdfdfdf:g1=flfdhgflhhgk",
    "jskgfl9pdhfld!dz;hfTz1*1S>3xffffm3kmhhfs1kfdkdb8+1t+!4ltg1%pvhggjf)f%gfjl)fV?d?2wMVdlsj10p",
    "[l[15k2w3d1hj1h3=qfvflfffqfvflff1Qh1+t1+2%<q<2S]1;PCd1;bNd2h"]),
  (["Changes_When_Lowercased", "CWL"],
   ["2f[3k>fl1fdfdfdfdfdfdfdfdfdfdfdfdfdfdfdfdfdfdfdfdfdfdfdfdfdfdfdfdgdfdfdfdfdfdfdfdgdfdfdfdf",
    "dfdfdfdfdfdfdfdfdfdfdfdfdfdfdfdfdfdfdfffdfdhffdfffgghfffghffffdfdfffdgdfffgfdffhdmffffffdf",
    "dfdfdfdfdfdfdgdfdfdfdfdfdfdfdfdgffdfgfdfdfdfdfdfdfdfdfdfdfdfdfdfdfdfdfdfdfdfdfdfdfdfdfdfdf",
    "dfdfdmfffgdfhfdfdfdfd9fdfdhdndldfgfdfffxfn1hdndfdfdfdfdfdfdfdfdfdfdfdkdgdffg1+1xdfdfdfdfdf",
    "dfdfdfdfdfdfdfdfdfdfdfdpdfdfdfdfdfdfdfdfdfdfdfdfdfdfdfdfdfdfdfdfdfdfdfdfdfdfdfffdfdfdfdfdf",
    "dgdfdfdfdfdfdfdfdfdfdfdfdfdfdfdfdfdfdfdfdfdfdfdfdfdfdfdfdfdfdfdfdfdfdfdfdfdfdfdfdfdfdfdfdf",
    "dfdfdfdg1k2Vp1kfdkdQ+2<24*dl1qggBddfdfdfdfdfdfdfdfdfdfdfdfdfdfdfdfdfdfdfdfdfdfdfdfdfdfdfdf",
    "dfdfdfdfdfdfdfdfdfdfdfdfdfdfdfdfdfdfdfdfdfdfdfdfdfdfdfdfdfdfdfdfdfdfdfdfdfdfdfdfdfdfdfdfdf",
    "dfdpdfdfdfdfdfdfdfdfdfdfdfdfdfdfdfdfdfdfdfdfdfdfdfdfdfdfdfdfdfdfdfdfdfdfdfdfdfdfdfdfdfdfdf",
    "dfdfdfdfdfdpmnkqmnmnkrdfdfdfdnm)mnmnmnjrjrhsjrj9pdhfld1tw*dT+[1Tx1w1xdfggdfdfdfhfdgdngfdfd",
    "fdfdfdfdfdfdfdfdfdfdfdfdfdfdfdfdfdfdfdfdfdfdfdfdfdfdfdfdfdfdfdfdfdfdfdfdfdfdfdfdfdfdfdfdfd",
    "fdfdndfdjdbBtdfdfdfdfdfdfdfdfdfdfdfdfdfdfdfdfdfdfdfdfdfdfd*dfdfdfdfdfdfdfdfdfdfdfdfdfd4mdf",
    "dfdfdfdfdfdhdfdfdfdfdfdfdfdfdfdfdfdfdfdfdfdfdfdfdfdfdfdfdfdfdfdfdfdfdfdfdqdfdfffdfdfdfdjdf",
    "dgdfdhdfdfdfdfdfdfdfdfdfdfjfjfdfdfdfdfdfdfdfhfdffhdkdfdfdfd)dPTr[16k1m4n1h4?qfvflff1Rq1+4%",
    "<2T];PDd;bPd1f"]),
  (["Changes_When_Titlecased", "CWT"],
   ["3f[1]d1p(fmfdfdfdfdfdfdfdfdfdfdfdfdfdfdfdfdfdfdfdfdfdfdfdfdfdfdfdfdgdfdfdfdfdfdfdfffdfdfdf",
    "dfdfdfdfdfdfdfdfdfdfdfdfdfdfdfdfdfdfdfdgdfdfggdfdgdhdkdgdhggdgdfdfdgdjdgdhdfdgdhdfdjdfffff",
    "dfdfdfdfdfdfdfdfffdfdfdfdfdfdfdfdfgfdfdhdfdfdfdfdfdfdfdfdfdfdfdfdfdfdfdfdfdfdfdhdfdfdfdfdf",
    "dfdfdfdndgffdjdfdfdfdfkfffdffhffhfjgdffgdmdgdffhkkdqf5ld1rdfdhdhg+d!1gffhgfdfdfdfdfdfdfdfd",
    "fdfdfdfjfdgdgd1=1wfdfdfdfdfdfdfdfdfdfdfdfdfdfdfdfdfdpdfdfdfdfdfdfdfdfdfdfdfdfdfdfdfdfdfdfd",
    "fdfdfdfdfdfdfdfdgdfdfdfdfdfdfffdfdfdfdfdfdfdfdfdfdfdfdfdfdfdfdfdfdfdfdfdfdfdfdfdfdfdfdfdfd",
    "fdfdfdfdfdfdfdfdfdfdfdfdfdfdfdfdfdfd1z1l3Mxk24gnfd7vdhdxd3+dfdfdfdfdfdfdfdfdfdfdfdfdfdfdfd",
    "fdfdfdfdfdfdfdfdfdfdfdfdfdfdfdfdfdfdfdfdfdfdfdfdfdfdfdfdfdfdfdfdfdfdfdfdfdfdfdfdfdfdfdfdfd",
    "fdfdfdfdfdfdfdfdfdfdfdfdfdflkdfdfdfdfdfdfdfdfdfdfdfdfdfdfdfdfdfdfdfdfdfdfdfdfdfdfdfdfdfdfd",
    "fdfdfdfdfdfdfdfdfdfdfdfdfdfdfdfdfnnkqmnmnkqmnmntgmnmnmnjffldhgffnhgfnmqgffB>d1fwjdVr[1Vl1w",
    "fdhffdfdfdldgdqdfdfdfdfdfdfdfdfdfdfdfdfdfdfdfdfdfdfdfdfdfdfdfdfdfdfdfdfdfdfdfdfdfdfdfdfdfd",
    "fdfdfdfdfdfdfdfdfdfdfdfdndfdjds1kfdkdb8*dfdfdfdfdfdfdfdfdfdfdfdfdfdfdfdfdfdfdfdfdfdfd*dfdf",
    "dfdfdfdfdfdfdfdfdfdfdfd4mdfdfdfdfdfdfdhdfdfdfdfdfdfdfdfdfdfdfdfdfdfdfdfdfdfdfdfdfdfdfdfdfd",
    "fdfdfdfdfdqdfdgdfdfdfdfdjdjdffgdfdfdfdfdfdfdfdfdfdrdfdfdfdfdfdfdfdjdfdgdhdkdfdfd]dV?d?2wMV",
    "dlsj11p[16t1m4n1h4!qfvflff1Sh1+3%<2T];PDd;bPg1f"]),
  (["Changes_When_Uppercased", "CWU"],
   ["3f[1]d1p(fmfdfdfdfdfdfdfdfdfdfdfdfdfdfdfdfdfdfdfdfdfdfdfdfdfdfdfdfdgdfdfdfdfdfdfdfffdfdfdf",
    "dfdfdfdfdfdfdfdfdfdfdfdfdfdfdfdfdfdfdfdgdfdfggdfdgdhdkdgdhggdgdfdfdgdjdgdhdfdgdhdfdkffffff",
    "dfdfdfdfdfdfdfffdfdfdfdfdfdfdfdfffffdhdfdfdfdfdfdfdfdfdfdfdfdfdfdfdfdfdfdfdfdhdfdfdfdfdfdf",
    "dfdfdndgffdjdfdfdfdfkfffdffhffhfjgdffgdmdgdffhkkdqf5ld1rdfdhdhg+d!1gffhgfdfdfdfdfdfdfdfdfd",
    "fdfdfjfdgdgd1=1wfdfdfdfdfdfdfdfdfdfdfdfdfdfdfdfdfdpdfdfdfdfdfdfdfdfdfdfdfdfdfdfdfdfdfdfdfd",
    "fdfdfdfdfdfdfdgdfdfdfdfdfdfffdfdfdfdfdfdfdfdfdfdfdfdfdfdfdfdfdfdfdfdfdfdfdfdfdfdfdfdfdfdfd",
    "fdfdfdfdfdfdfdfdfdfdfdfdfdfdfdfdfd1z1l2Vn1qggR)k24gnfd7vdhdxd3+dfdfdfdfdfdfdfdfdfdfdfdfdfd",
    "fdfdfdfdfdfdfdfdfdfdfdfdfdfdfdfdfdfdfdfdfdfdfdfdfdfdfdfdfdfdfdfdfdfdfdfdfdfdfdfdfdfdfdfdfd",
    "fdfdfdfdfdfdfdfdfdfdfdfdfdfdfdflkdfdfdfdfdfdfdfdfdfdfdfdfdfdfdfdfdfdfdfdfdfdfdfdfdfdfdfdfd",
    "fdfdfdfdfdfdfdfdfdfdfdfdfdfdfdfdfdfdfnnkqmnmnkqmnmntg1=ffjdfdhgffjdhhgfnmqgffjdBzd1fwjdVr[",
    "1Vl1wfdhffdfdfdldgdqdfdfdfdfdfdfdfdfdfdfdfdfdfdfdfdfdfdfdfdfdfdfdfdfdfdfdfdfdfdfdfdfdfdfdf",
    "dfdfdfdfdfdfdfdfdfdfdfdfdfdfdndfdjds1kfdkdb8*dfdfdfdfdfdfdfdfdfdfdfdfdfdfdfdfdfdfdfdfdfdfd",
    "*dfdfdfdfdfdfdfdfdfdfdfdfdfd4mdfdfdfdfdfdfdhdfdfdfdfdfdfdfdfdfdfdfdfdfdfdfdfdfdfdfdfdfdfdf",
    "dfdfdfdfdfdfdfdqdfdgdfdfdfdfdjdjdffgdfdfdfdfdfdfdfdfdfdrdfdfdfdfdfdfdfdjdfdgdhdkdfdfd]dV?d",
    "?2wMVdlsj11p[16t1m4n1h4!qfvflff1Sh1+3%<2T];PDd;bPg1f"]),
  (["Dash"],
   ["1td1B?d1*d3Lfd10kd20pk1%d1mdwdDld30jdgd;fjd?dF:d*d3wd1MDxf1kdqd5pd3Mdd9:d"]),
  (["Default_Ignorable_Code_Point", "DI"],
   ["5tdPfdQsd2Vgf1L*f2<j1c!j]j1zw47=d1M4!w7wd5dd2wn1H5mh56wmSCNk3c;"]),
  (["Deprecated", "Dep"],
   ["Bpd19pd28hdfd21pf26kkP[fWR6>d"]),
  (["Diacritic", "Dia"],
   ["2:dfd2mdldjdgfH(4:fmkkzfjdpf7%j6zd1(xf]fdfffd4lmjf4lfjfhg2h]2!q1]q1gf3:m1ppx!1%dxdhh?d2qdx",
    "d3vdxd3vdxd1wg1?dxdmd3(d3vdxd3vdxd3tfxd3?d3wdskfd3rdtj2rf!dfdfdjf2ggff1:d3xdff1nfjj[lfdqfQ",
    "fgZ=f:d4=qpdB!g9jd=mgd1xvgq3ndwd1ln1>f1]drf2gf2dk2+)jdldgg1+1:2[r1kqF%dfgrgtgtgtf37xg9%dH]",
    "k3ph2;dZC+dsffd?f2+fv1f3lg3tfsd1kd4(d!z1[h1jd2;dsd1jd4<g2fh1*d3jjpg4dfMTxdSfw8vdfd1wd1tf2h",
    "dR?d14;kf1pfnM%gjd5kfK!k1ld]jDwg2lq1zh6dd1pd2nf3)f1:d2sdpg3nf5+f2xfxd)lhj2[gfftf2;dhd3!f7!",
    "f3:d3>f3*d8tf8gfjd4?d2*d+d2zdFkd8gdff2zdFpf(d57svC6[d2Gdj1!lK=fKgx2xfHc:hflff7Sf1tg>Kdghkn",
    "mgl:h3Ng1%6glC(d1%hR:fRdl3tgfg"]),
  (["Emoji"],
   ["1hdldkp3wdjd7Xtdsd6)d>d2]kwfCwfsd5ld[qjg6md7mfqdpd1]hfjpdgdgfgdjdgdffgdhdhfngkdfdkrrfgdfff",
    "d+dgf+kfdffhfkdgfjfrfkfgdkffdff=fkkfhgdjdgdgkfdgdfdfdldhdldqfwdgdjdfdjgfdrf1xgpdvdvdC=fGwg",
    "*f1*djd16]dsdL[dfd3HCqd6qd5dfsfvdgp2r[ff(d=dgn<f5v1fg3wgffgg2+ggf8lf1:rkf(mfgmsdghgdjftfgd",
    "nfpdkgsgnggdfdjdldhdl2<1x2kkmggjphdffhdgp7hrjd8!1vfpf5)3xshpk1(mvgqln"]),
  (["Emoji_Component", "EComp"],
   ["1hdldkp7b*d6<d1R9rd1Xb>[H!j1FxhS1Ms2;"]),
  (["Emoji_Modifier", "EMod"],
   ["3Xc!j"]),
  (["Emoji_Modifier_Base", "EBase"],
   ["9J%d6!dxh3M3(d1?ggdgg3<fgq<+hdjgfgmdfd)d6pfjd<djf5vghj2*dxgpdrdK;dgdnmldppgg1)d1%ffffdzgfs",
    "7kg1qn"]),
  (["Emoji_Presentation", "EPres"],
   ["8S]f6thhdgdJpf<f1+r1rd*dtdnfzfkfndkd<dmffdjdgdmdjf?d1hdfdjgfd1%g)dvdV!f1*djd3K5vd6qd5:dgp2",
    "r[fd)d=dgjfg<f5v1dsnf2kf<s1qjjsxhdh2lfdf5]g1:thf(+d]ftd2>2=1x2kldhgggjhrfmn7hrjd8!1vfpf5)3",
    "xshpk1(mvgqln"]),
  (["Extended_Pictographic", "ExtPict"],
   ["5pdjd7Xtdsd6)d>d2]kwfCwfsd2;d2ld[qjg6md7mfqdpd1]hfkfrf3zq3<gqfdfdldhdldqfwdgdjdfdjgfdrj1tg",
    "pdvdvdC=fGwg*f1*djd16]dsdL[dfd3HCl7;tg;d1?ksfvdgp+1)!vqd=dgnfhpFzk9%n8p1x3;3=r2<1qsh1)mqk1",
    "nm:2zs1vfpfF)8dc%"]),
  (["Extender", "Ext"],
   ["5(dJ)fWvdF[dM>d4pd2[dRxd3;d2Bhd1)dMhdDvd2jd4Xpd1rj3mf2%gWS>d1H>dbgd>d4pd3sd<fP3!d20xf1Grd!",
    "djd16md9kd3=fH+g16wdN5pf14?ffdXB)f15zdV=g"]),
  (["Grapheme_Base", "Gr_Base"],
   ["1d2:1fsfLz3xmgkjlfdf*f6;m5kf1kg1zgg1vdfdgdgdp]jkzprdf1t<wf3jndlfgdj;gdf%%2)rdv1qplh(jdpdhd",
    "mvf)kdfqk:z1p1[1>fdfhnhfgmpg?fffmgfg<flfdhhhdfflfgffdtffgj(kdfkjfg<flffffffjg)hfdmpggfdsdf",
    "nfgf<flfffjhhndffhdwfjrmdnffmgfg<flfffjhdgdlfgfwffgjzrdfkhgfhhffdffhfhghrkdffhgfghd<=lgfmf",
    "gf>fwhdhh*ggdgfjpmpfqfgf>fpfjhfgdff)fffjpfgvqfgf1ngdffkgfgffjgfpj[gffzh(fnfdglpfllmpggs1wf",
    "frmns1kffdfjf(fdfpffpdgjfdppgh1d(g]fdfdftf1h+dkdgj1zmfkfs1k1sjdldgfg)ghhwjsffgkfvf1mfdkdgC",
    ")fhglfdfhg1nfhg1dfhglfdfhgvf1)fhg2gk?h[l2<gkgN?h2)mzt+hfpzvsfgw1*gdmmffrnhplplqkpl2)mjg1ff",
    "dk2kq:jhggjffkmdh1pgjr1rj[lqh1)gfh1(fdpdffnktplplt2>1wqhhmf?prg;jfl1(fdggfdt1wnfkvh1%k1qgq",
    "rdtdmhfkfggdk5;2d8<gkg1kgkgmfdfdfdf:g1=fvftgkf+ggfnfqk(m1xxfg]fsh1d1;4rjN[>q<1S*g;fB(hfk1s",
    "fdkdg1(mfw>plflflflflflflfl1f2%1g[f2)s6<]1[lwf2<j3jk1qf2%f2<p1wfXMsh1>pB!=1vjdq;g2wgkn6tgf",
    "fdfm<wfgfhf)gjjpl1(n2hqr)sf1kn)rds%l1wffjfgffsfqjlf)f1nlfgfrgfmfdgpg;f1+fdhfgjgdfd)xgmrkgk",
    "gkplflf1!j3=fffhhplBZhs>j1x88jCtg3p1llsjkdf(fjfdfffff3?xF?g1<md1dwxp>1gf+fhjjf4lj4?g:hkgkg",
    "kgghlfltfgrf[f+fffvgt1g3]kgj1sh2(fshd1w1s4h?h1xx]j1hp%k1kq%f1jjt1q4%gpl1hj1hj1mn1*rrfvflff",
    "fqfvflffh1*s9>p<qm)kf1pfn2kkgdf1rffhdg>f2mnn1x+ffk1dh]kd2d1(j*g1vwhfgf?qnmnm1;1d1jlrp1<h?g",
    "]k[mhsl2x2n1(1+t1+m1pspl1kn(nf6x:f1phdgfxg1!1mn<rn>zjh1l!=>pdf1<wlj%ffgds1xjfgffhv)mpp1hkd",
    "pzn1gfgr1*pdfmjffwf*rzf!hfjkff1;lfdfhfvfql1vfgtpnffmgfg<flfffjhdfdfhgfgfhdsl?pfdgdf1kfdffw",
    "dffhdfgff1m1(nfhdf=fdfg:1wffldfffdgdghnp5l1vfflhgdg]1j1+nffdghrpls*1qfdffnflpl*?]hdffjdp>5",
    "[1vpdgd3j2+smgdgmfff(fjfflhfgpp2lmg1pnhfh!dq1mlfjmpdlfh1ttdgnt2nmp5>1fvplnf1kvdfkq?h;[dmdg",
    "d2rlfff1k<dpplkfff1jjffdfdmp9>+ghpvf1hnfh>2>dw1ztX]3l3vfjr6h2Ls3gt11wzk[3X]kLl6P[%sghp1QlK",
    ")m:fpj2xfpl%mdq1wmvqpflf=k+Fx1[6l2]3k2qk1(rs2dh?5c(n16<1pp8Rmhflfff9gwd%ggdvhnDr28j3qkshnm",
    "pgdgd3Wd7[lF*4?3*1?7<q1lg1!kg>fm%j1?<2fhd3]*s*s2>p)4m2=f2lffgdgfghfrfdflf2dfhgmflf!fhfjfdh",
    "lfB*g9hgKz1(h1+mftfl13=:lk8k1%4+1sqlgpjfBd%+1rjpkdGx!jp6>%gqjdHdlfhfffvf6jgn1x2hmdjpjfSz2h",
    "2s1?6ghf]fffdgdfpfhfdfdldjdfdfdfgfffdgdfdfdfdfdfffdghflfhfhfdfpfxkgfjfx1=f8v1rj3hsvgvfvf1j",
    "q5t1)?t1rjnmfvk4]b(jxhsh3>j2:lrjdwrj1(npl1mn%grjf1:B*stgshpk1(mvgqlnm4+f3k10l19Q;1d41[l6%g",
    "5Nfv79xwMt2FgJ%1Hg4Vqk42;"]),
  (["Grapheme_Link", "Gr_Link"],
   ["2Btd3;d3;d3;d3;d3;d3;d3;d3tfxd3?d3wd3;d6pd5=f1Q[f:d4%dNtd7hd3kf2lf4DrdbNld1kd4(d4vd3sd9<d7",
    ">dRLzd1Jld1pdvd1[d3[f4rd3=d5=d3gd4dg3zd3;d7?d3;d3>d3=d8td8hf5fd2*d+d2zdFkd8jf2zdFpfJHsd"]),
  (["Hex_Digit", "Hex"],
   ["1xpmk]k1cPppmk]k"]),
  (["Hyphen"],
   ["1td3;d16?d4M!d20pf3JkdRhd1MCmd5pd2(d"]),
  (["IDS_Binary_Operator", "IDSB"],
   ["CcxfgpHzd"]),
  (["IDS_Trinary_Operator", "IDST"],
   ["Cc+f"]),
  (["IDS_Unary_Operator", "IDSU"],
   ["Cc:f"]),
  (["ID_Compat_Math_Continue"],
   ["5+fkd7Z>dhqfvC*djd>d3F5gd[d;d[d;d[d;d[d;d[d"]),
  (["ID_Compat_Math_Start"],
   ["8Jgdjd>d3F5gd[d;d[d;d[d;d[d;d[d"]),
  (["ID_Continue", "IDC"],
   ["1xpm[jdf[1wdqdfdgdk>f:fGpjrvjmdfdz3=ffghfdljfdf*f2+f4qfjg5kf1kgdl1nn1sfdfffffdn]jh%qk2pj3k",
    "fmgpf+gdx1]g3jv1<jdgdg1t+!jqk(fkn2qf4dgpf+fmgfg<flfdhhgngfghndjffjgrqdfdggfkjfg<flffffffgd",
    "fjjfgghdmhfdmwrgfnfgf<flfffjgpfgfggdwhgpplfgfmgfg<flfffjgngfggmgjffjgpfdxffkhgfhhffdffhfhg",
    "hrjjhgfhgdldvpxsfgf>fwgnfgfhmffggdghgpxhfmfgf>fpfjgnfgfhmflffhgpfgssfgf1+fgfjkhmjgpqkfgfzh",
    "(fnfdglhdjkfdfmlpgft1[kvfp1mffdfjf(fdf>gjfdflfpgh1dd(flprdfdfdjpf1hj*fzf1hpd1[2pl2tg1kfdkd",
    "g1qfBsfhglfdfhg1nfhg1dfhglfdfhgvf1)fhg2gggpnvwx2<gkhMrgxf[k2qhqm<p<r*ssfgffs2*hdjfgp1fgfql",
    "2)m1qk2kq:frjrq1mgjr1rj[lq1k!j1:f?gqlptdntfw1z2shpzns3*s1(nph1xgqk1qggxgf1lkJ<gkg1kgkgmfdf",
    "dfdf:g1=flfdhgflhhgkjskgflwf1zf*d?dtdxs1*sjdhrzdjdgpfdgkldfdfdfwghkjjdz1n2M(7jlns1kfdkdg1(",
    "mdw(plflflflflflflflf;Jkg[vfjgjj2<glf2:k1qf2%z;1xwJd6F;2dPNs2h1tg8sh!=1wjpf3+1kng3lg2ggffd",
    "fm<1<jd*1*s2kqpl(hdf1xg1hs?h2dvql:f1>ptgpl>h2n)ggwgjqkgkgkplflf1qftl3]ffgplBZhs>j1x88jCtg3",
    "p1llsjkrfsfjfdfffff3r1fCq+1;g1<1nrjwxwhf)g1djf4l*pm[jdf[q2[hkgkgkgg1hrf[f+fffvgt1g3]2k1=4n",
    "d4g?h1xwd;;t%k1qk%g1hjmfj1q4%gpl1hj1hj1mn1*sqfvflfffqfvflffh1*s9>p<qm)kf1pfn2kkgdf1rffhdg>",
    "q>p:2f+ffq<q[2l1(lf2dhffkmfgf?ggjd1d?h?1hmf%[1<q<q+tz3v2n1(1+t1+t1mnpl1khjf>7]1pffhfxg1(1d",
    "qdn1d;<1q=!>p2l;wp1!mdt)mpl1=fpjhn1hgdp2jjhfsfd1hzf1jlh1:lfdfhfvfpm1]kplhfmgfg<flfffjfpgfg",
    "ggdldklglhjrpfdgdf1kfpfdgdfhfmtf%2qkpjh:2kfdnp5l1<gn(k1g2dhdrp1l1)mpl*?]gvjpll5[1]3k2p<mgd",
    "gmfff%ffgnsp2lmg1tgmff!1:ndn2phd+2n6m1dwplnf1sfnwp)%g<ft2plfff1rhdfffnnplkfff1jfffkmp9>>px",
    "f1nhjtq2<d2wX[3l3vz6h2Ls3dw11wx<q3X]kLl6P[1[1QlK)m:fpl2vfpl%gjr1>phspp=k+Fx1shp6l1;4d2qj1)",
    "mx2dfffrfv5c(n16<1pp8Rmhflfff9gwd%ggdvhnDr28j3qkshnmphf42zpJl1tg>J:jhknmgl:h4=gF!2=f2lffgd",
    "gfghfrfdflf2dfhgmflf!fhfjfdhlfB*g)f)f:f)f:f)f:f)f:f)fmg1zJd1>j1zndvd>jfv12x:lk6<lfxglfffjk",
    "1%1fd3x1shtgpjdBf:z1[G>1p6>1qHklfhfffvf6jrl1p2rjp15lhf]fffdgdfpfhfdfdldjdfdfdfgfffdgdfdfdf",
    "dfdfffdghflfhfhfdfpfxkgfjfx39=p10l19Q;1d41[l6%g5Nfv79xwMt2FgJ%1Hg4Vqk42;PRBx7w"]),
  (["ID_Start", "IDS"],
   ["2f[l[1wdqdjdk>f:fGpjrvjmdfd4fjffghfdldfgfdf*f2+f4qn5kf1kgdl1n2m]jh1t1q1hff3gfdwfmfqggdxdf%",
    "%2)rd)1dpfjdk<jdpdhd()mqk(fkz1p1]1<hd+dmpwwjmgfg<flfdhhhdxdtffgvfqdnkjfg<flffffff;hfd*gxnf",
    "gf<flfffjhd+dwf(drmgfg<flfffjhd:ffgwdzdfkhgfhhffdffhfhghr>d1=mfgf>fwhd]ggdgf:djmfgf>fpfjhd",
    ";fffwfznfgf1ngdxdkgng)kkzh(fnfdgl1]1wffsl1]ffdfjf(fdfpffpdgjfd<h1dd1;mf1h!j3*1q=dxkjhhdhfm",
    "gjssdz1kfdkdg1qfBsfhglfdfhg1nfhg1dfhglfdfhgvf1)fhg2g1kwx2<gkhMrgxf[k2qhqmzt+vzvsfgw1*1hdjd",
    "2h2)m1nfdk2kq:1z%gjr1rj[1>>p1=2+d2%1vzm1>%tfq1r]1h1pgq1hgqk1qgg1phfkffhdk5;2d8<gkg1kgkgmfd",
    "fdfdf:g1=flfdhgflhhgkjskgfl3=dtdxs3kdjdgpfdgkldfdfdfwghkjjdz1n2M(7jlhhfs1kfdkdg1(mdx>plflf",
    "lflflflflflKlg[nmjgjj2<jjf2[fhk1qf2%z;1xwJd6F;2dPNs2h1tg8shwqf=1vx:g2w1mng3lg2ggffdfm<wfgf",
    "hf>%1*v1z1:khdffr!q>[?m1v?dxjfpqjf1n(gfm=>hdh1zfdhfgjgdfd)ggqmgskgkgkplflf1qftl3+%BZhs>j1x",
    "88jCtg3p1llsjkdfpfsfjfdfffff3r1fCq+1;g1<1nr3=jf4l1j[l[r2)hkgkgkgg1hrf[f+fffvgt1g3]2k1=8r?h",
    "1x1w;t%k1kq%g1hjmfj1q4%+1hj1hj1mn1*sqfvflfffqfvflffh1*s9>p<qm)kf1pfn2kkgdf1rffhdg>q>p:2f+f",
    "fq<q[2l1(lf2ddwhfgf?1q?h?1hmf!!1<q<q+tz3v2n1(1+t1+t1h1l!p>7]1plfxg1!?qdn<1qz1v=!>s1=1[fgdt",
    "1s1d)]1h%dgdn1ghds1wvh<dfd1hzf)*f1;lfdfhfvfpm1v1lmgfg<flfffjhd+dsj:pfdgdf1kfd[dfd1s1=+h=g:",
    "1w=ffd5)1v1ph1j1w=d1!1qtd2m]1kl5[1r3=1;;mgdgmfff(wdfd2:mg1lxdfd?dq1mmd<dr1t*d+2n6m1d;nf1jz",
    "d1z%3xlfff1k<d[kfff;vdBm+wdfsf1f3?d2wX[3l3vz6h2Ls3dw11wzk[3X]kLl6P[%1RgK)m:z2vz%+1wxh;=k+F",
    "x1s6*1;4d2qkd2gs2dffd?5c(n16<1pp8Rmhflfff9gwd%ggdvhnDr28j3qkshnmp5Wl2=f2lffgdgfghfrfdflf2d",
    "fhgmflf!fhfjfdhlfB*g)f)f:f)f:f)f:f)f:f)fm1T=:lk8k1%4+1sqlxdBf%+1rHj!7j%gdHwlfhfffvf6j1!2hm",
    "d15=hf]fffdgdfpfhfdfdldjdfdfdfgfffdgdfdfdfdfdfffdghflfhfhfdfpfxkgfjfx4Bj19Q;1d41[l6%g5Nfv7",
    "9xwMt2FgJ%1Hg4Vqk42;"]),
  (["Ideographic", "Ideo"],
   ["D0lf[nvgbk6F;2dNH;Q8dCtg3pZ8qd!5c(n16<1pp93mDrM8j19Q;1d41[l6%g5Nfv79xwMt2FgJ%1Hg4Vqk42;"]),
  (["Logical_Order_Exception", "LOE"],
   ["3Ldj3!j2Rxggd147]fgdff"]),
  (["Lowercase", "Lower"],
   ["3f[1wdqdjd1j(fmfdfdfdfdfdfdfdfdfdfdfdfdfdfdfdfdfdfdfdfdfdfdfdfdfdfdfdfffdfdfdfdfdfdfdfffdf",
    "dfdfdfdfdfdfdfdfdfdfdfdfdfdfdfdfdfdfdfdfdfdgdfdfggdfdgdhfjdgdhggdgdfdfdgdfffdgdhdfdgfggldg",
    "dgdfdfdfdfdfdfdfdfffdfdfdfdfdfdfdfdffgdfdhdfdfdfdfdfdfdfdfdfdfdfdfdfdfdfdfdfdfdfdfdfdfdfdf",
    "dfdfdfdfdflgdgffdjdfdfdfdf2jf1hmf:j3dd1rdfdhdgh+d!1gffhgfdfdfdfdfdfdfdfdfdfdfdfjfdgdgf1*1w",
    "fdfdfdfdfdfdfdfdfdfdfdfdfdfdfdfdfdpdfdfdfdfdfdfdfdfdfdfdfdfdfdfdfdfdfdfdfdfdfdfdfdfdfdfdgd",
    "fdfdfdfdfdfffdfdfdfdfdfdfdfdfdfdfdfdfdfdfdfdfdfdfdfdfdfdfdfdfdfdfdfdfdfdfdfdfdfdfdfdfdfdfd",
    "fdfdfdfdfdfdfdfdfd1x1n2Vm1qfhR)k24gnfd3<5;2fdfdfdfdfdfdfdfdfdfdfdfdfdfdfdfdfdfdfdfdfdfdfdf",
    "dfdfdfdfdfdfdfdfdfdfdfdfdfdfdfdfdfdfdfdfdfdfdfdfdfdfdfdfdfdfdfdfdfdfdfdfdfdfdfdfdfdfdfdfdf",
    "dfdfdfdfdfdfnfdfdfdfdfdfdfdfdfdfdfdfdfdfdfdfdfdfdfdfdfdfdfdfdfdfdfdfdfdfdfdfdfdfdfdfdfdfdf",
    "dfdfdfdfdfdfdfdfdfdfnnkqmnmnkqmnmntgmnmnmnjffldhgffnhgfnmqgff3[dtdxs3tdhfhd!djdjdgfnhjd1fw",
    "jdVr[1Vl1wfdhffdfdfdjdfffmhdfdfdfdfdfdfdfdfdfdfdfdfdfdfdfdfdfdfdfdfdfdfdfdfdfdfdfdfdfdfdfd",
    "fdfdfdfdfdfdfdfdfdfdfdfdfdfdfdfdfdffmdfdjds1kfdkdb8*dfdfdfdfdfdfdfdfdfdfdfdfdfdfdfdfdfdfdf",
    "dfdfdfd*dfdfdfdfdfdfdfdfdfdfdfdfdfg4kdfdfdfdfdfdfgfdfdfdfdfdfdfdfdfdfdfdfdfdfdfdfdfdfdfdfd",
    "fdfdfdfdfdfdfdfdfdfdfpfdfdgdfdfdfdfdjdfdgdfgfdfdfdfdfdfdfdfdfdfdkdkdfdfdfdfdfdfdfdjdfdgdhd",
    "fdfdfdfdfd>gfdfgT<1qftl2wMVdlsj11p[16t1m4n1h4!qfvflffGhdggf1pfn18k1+3%<2T];PDd;TD][]lfz][]",
    "hfdflfq][][][][][][][][]!?)fk])fk])fk])fk])fkfd1T=pf*lk8k1%25=1f"]),
  (["Math"],
   ["1rdxg;d%dfd1tdjd1kd;dQ)ggd]fggJwg6Jtd!grdhdtdvh<jrj2fsjdhfjj+djdgpfdgkldhfgffgfkhtfd2j(fkf",
    "fjfj;fdlfv8rnh=f2]d:]fd)drlF%fspjkjfgfhjvdfdgkrmkf1[dfd%hpgBx1;8dH;1x=gk1Mb?dT(kfd5gdxg%df",
    "d%dfd4hdlh3Fff1KMx2=f2lffgdgfghfrfdflf2dfhgmflf!fhfjfdhlfB*g9hg1z5Jdhf]fffdgdfpfhfdfdldjdf",
    "dfdfgfffdgdfdfdfdfdfffdghflfhfhfdfpfxkgfjfx1=f"]),
  (["Modifier_Combining_Mark", "MCM"],
   ["1L=fgd4hdldhfHfffghd;d"]),
  (["Noncharacter_Code_Point", "NChar"],
   ["1cGx;Jvf1cc:f1cc:f1cc:f1cc:f1cc:f1cc:f1cc:f1cc:f1cc:f1cc:f1cc:f1cc:f1cc:f1cc:f1cc:f1cc:f"]),
  (["Other_Alphabetic", "OAlpha"],
   ["Vkd%sLdtfdfffffd2nq1xsflxd3kljhgfjd1hd:w3lq3kfhnfgfh3qd1?rhll*1>fgvffkgqf%g1]lgfgfqdqf%g1]",
    "jjfgfjd:fhdrg1]mfgff<f>gjg1]lgfgfpfqf:d1!jhgfgqd1nj1[lfgfgnfrf%g1]lfgfgnfrfwdsh1]lfgfgqdqf",
    "%g2rkfdfm+f1%dgl+d3hdgkffxd5h+pqf1h3vrfdgh(hjgfgglhhtrfdqh1M=f:f:f:f2g+5?f1gd3>rjn6:j1[pg*",
    "2qfrg1zj1xv1?g:ngf1[q1++D?1f1Qf1*27>;b3=m1gfCgdnd(j2)f1+wfd1[d1lj?r1th1xr1kd2htsdnf1tg1+df",
    "ggfkd1sjkd7tmMT*d22(j1NlgffkhS=h2fdBff2wd8hg1<t1tfrg1tnpd1%g1jr+f1[g1xsvf2?ngdldgd4%p(h1]l",
    "gfgfqdqf2=nfdgdfhff3msfg3qz7tlgl%f2+vfd3qq3mt8fs7(kffgfhdfd4vlgkjd?p1qjfh+q1vtD(mfl2*<ft3]",
    "khdfffgfdhd2gjfffhB?hpffd1xlhgJG%x3Kddf1>mh2%fM5sd8Wflfxglfffj3jd25(d1cn[l[l["]),
  (["Other_Default_Ignorable_Code_Point", "ODI"],
   ["Vwd3Jwf1L*f25wd47:d1MK!d2wnV00mdf%3d3;7x3Jw"]),
  (["Other_Grapheme_Extend", "OGr_Ext"],
   ["2F:d)dCld)d3ld)d7ndfdjfffpf3md)d3(dwd29<d:d10ddkdfdkf3kd2mf10)d41ffb9hd3sdPG%f4Kdd3=d8ndvd",
    "pd3ddpdgdfgkd7ddsd7zd8ldM[dsd1JhdN5vfSC*flkSCPt2;"]),
  (["Other_ID_Continue", "OIDC"],
   ["5(dQwd3cfn1Mnd1Kzf47td1MMpd"]),
  (["Other_ID_Start", "OIDS"],
   ["64kf24zd<d3Wsf"]),
  (["Other_Lowercase", "OLower"],
   ["5qdwdH<nmf:j3dd1=d3Dfd31w1:td1g1jPzdtdxs6*wVx[1X+fbJ:f6+d4fghfWghpdR0>dggf1pfn1Q3<1%"]),
  (["Other_Math", "OMath"],
   ["2:dWzggd]fgf71dd!grd1dh)fvf2fsjdhfjj+djdgpfdhjldhfgffgfkhhkj2rjghfffffdfjgfjfjzgffdflfdlf9",
    "gh5nffd)dzdF%fsnkjkfgfhjvdfdgk)f1[dfd%hpfB>f;pD*<1;h1df1P3hdfdjd6*dfd1P6f2=f2lffgdgfghfrfd",
    "flf2dfhgmflf!fhfjfdhlfB*g)f)f:f)f:f)f:f)f:f)fmg1z5Jdhf]fffdgdfpfhfdfdldjdfdfdfgfffdgdfdfdf",
    "dfdfffdghflfhfhfdfpfxkgfjfx"]),
  (["Other_Uppercase", "OUpper"],
   ["8CdwVl[3M3d[l[l["]),
  (["Pattern_Syntax", "Pat_Syn"],
   ["1fvql]hfd]h1glfdfffdffjdjdhd(d;d7S)(nvg+fp9zQw5dM<:13rJd3;Dfgj)wd1M8tf8kf"]),
  (["Pattern_White_Space", "Pat_WS"],
   ["pj+d3jd7Xnf)f"]),
  (["Prepended_Concatenation_Mark", "PCM"],
   ["1Jdk6(d1zdDdf2xd21b]dwd"]),
  (["Quotation_Mark", "QMark"],
   ["1gdjd4hdwd7V?m[f3JmdGphtg1MKfh5%djd2]f"]),
  (["Radical"],
   ["CNd[f2)s6<"]),
  (["Regional_Indicator", "RI"],
   ["3XHl["]),
  (["Sentence_Terminal", "STerm"],
   ["1fdsdxd1Bpd4*g5=d1rg7>d1%dfdhf9kf1RjfS>djfSkd6lf4%f1tdkd9]fCgh5gfqfgf%g5!f2ffZjd(fpg35wg9+",
    "dtd>fFtdZ7?d8vf7hdhdC:f2>f2;d4)f4*g4xf7[dNKldgf1!dhf5pdsdxd2fd2R=f17%j1sh5%f3<h3;g4ffldxf2",
    ")fff3sd9qf3<fC<fkv3pf7[gJkdfd7!f2(fFjfP=f2qfLTpf4kd2ffrdKpf9ndMJld7Hnd"]),
  (["Soft_Dotted", "SD"],
   ["3pf6jd8[d:d1=d=dBdd3gdfd68pd1*dtdhd4jd4%dFkd6>f2T+d39Zkf1+f1+f1+f1+f1+f1+f1+f1+f1+f1+f1+f1",
    "+f24ld9zf]d"]),
  (["Terminal_Punctuation", "Term"],
   ["1fdqdfdrfhdT:dndJfd1[d2ndvdfg5=d1rqfd7rf1>kfm;d8kf17=f5sdjk9(fS<mSkd3?g2mf4%ghd1mhgf9]fCgh",
    "5gfqffg%g5!j1:fZjd(fpg35wg9+dtdjdqdffhfFsfZ7!f8tg7hjC:f2>f2;d4(g4*g3;dxf7[dNKldgf1[gfh5pdq",
    "dfdrfhd2fdgd11]d1xd14ld6md9>f4)k2jk2[hZ)j1sh5%l3xh3;g4ffldxf2)j3sd9qf3<gsfClhhv3pf7[gJkdfd",
    "7!f2(fjfD:g1tdNkf2qf19rjKH[f4kd2fgqdKpf9mfMJld7Hmh"]),
  (["Unified_Ideograph", "UIdeo"],
   ["F0d6F;2dNH;QJvffdffqdfdffgg21G>19Q;1d41[l6%g5Nfv79xwMt4Fg4Vqk42;"]),
  (["Uppercase", "Upper"],
   ["2f[3k>fl1fdfdfdfdfdfdfdfdfdfdfdfdfdfdfdfdfdfdfdfdfdfdfdfdfdfdfdfdgdfdfdfdfdfdfdfdgdfdfdfdf",
    "dfdfdfdfdfdfdfdfdfdfdfdfdfdfdfdfdfdfdfffdfdhffdfffgghfffghffffdfdfffdgdfffgfdffhdmdgdgdgdf",
    "dfdfdfdfdfdfdgdfdfdfdfdfdfdfdfdgdgdfgfdfdfdfdfdfdfdfdfdfdfdfdfdfdfdfdfdfdfdfdfdfdfdfdfdfdf",
    "dfdfdmfffgdfhfdfdfdfd9fdfdhdndldfgfdfffxfn1hdgghdfdfdfdfdfdfdfdfdfdfdfdkdgdffg1+1xdfdfdfdf",
    "dfdfdfdfdfdfdfdfdfdfdfdfdpdfdfdfdfdfdfdfdfdfdfdfdfdfdfdfdfdfdfdfdfdfdfdfdfdfdfdfffdfdfdfdf",
    "dfdgdfdfdfdfdfdfdfdfdfdfdfdfdfdfdfdfdfdfdfdfdfdfdfdfdfdfdfdfdfdfdfdfdfdfdfdfdfdfdfdfdfdfdf",
    "dfdfdfdfdg1k2Vp1kfdkdQ+2<24*dl1qggBddfdfdfdfdfdfdfdfdfdfdfdfdfdfdfdfdfdfdfdfdfdfdfdfdfdfdf",
    "dfdfdfdfdfdfdfdfdfdfdfdfdfdfdfdfdfdfdfdfdfdfdfdfdfdfdfdfdfdfdfdfdfdfdfdfdfdfdfdfdfdfdfdfdf",
    "dfdfdpdfdfdfdfdfdfdfdfdfdfdfdfdfdfdfdfdfdfdfdfdfdfdfdfdfdfdfdfdfdfdfdfdfdfdfdfdfdfdfdfdfdf",
    "dfdfdfdfdfdfdpmnkqmnmnkrdfdfdfdnm2nhshshsjrh8ldjdhggggdhjldfdfdfhghqfkd]w*dT+[1Tx1w1xdfggd",
    "fdfdfhfdgdngfdfdfdfdfdfdfdfdfdfdfdfdfdfdfdfdfdfdfdfdfdfdfdfdfdfdfdfdfdfdfdfdfdfdfdfdfdfdfd",
    "fdfdfdfdfdfdfdfdfdfdndfdjdbBtdfdfdfdfdfdfdfdfdfdfdfdfdfdfdfdfdfdfdfdfdfdfd*dfdfdfdfdfdfdfd",
    "fdfdfdfdfdfd4mdfdfdfdfdfdfdhdfdfdfdfdfdfdfdfdfdfdfdfdfdfdfdfdfdfdfdfdfdfdfdfdfdfdfdfdfdfdq",
    "dfdfffdfdfdfdjdfdgdfdhdfdfdfdfdfdfdfdfdfdfjfjfdfdfdfdfdfdfdfhfdffhdkdfdfdfd)dPTr[16k1m4n1h",
    "4?qfvflff1Rq1+4%<2T];PDd;TFd[][][]dffgdgfghfm][]ffhgmfl!ffhfjfdhl![][][][][][:)1f)1f)1f)1f",
    ")1fd49<1f20v[l[l["]),
  (["Variation_Selector", "VS"],
   ["60rgfd1THxwV0Rx7w"]),
  (["XID_Continue", "XIDC"],
   ["1xpm[jdf[1wdqdfdgdk>f:fGpjrvjmdfdz3=ffhgfdljfdf*f2+f4qfjg5kf1kgdl1nn1sfdfffffdn]jh%qk2pj3k",
    "fmgpf+gdx1]g3jv1<jdgdg1t+!jqk(fkn2qf4dgpf+fmgfg<flfdhhgngfghndjffjgrqdfdggfkjfg<flffffffgd",
    "fjjfgghdmhfdmwrgfnfgf<flfffjgpfgfggdwhgpplfgfmgfg<flfffjgngfggmgjffjgpfdxffkhgfhhffdffhfhg",
    "hrjjhgfhgdldvpxsfgf>fwgnfgfhmffggdghgpxhfmfgf>fpfjgnfgfhmflffhgpfgssfgf1+fgfjkhmjgpqkfgfzh",
    "(fnfdglhdjkfdfmlpgft1[kvfp1mffdfjf(fdf>gjfdflfpgh1dd(flprdfdfdjpf1hj*fzf1hpd1[2pl2tg1kfdkd",
    "g1qfBsfhglfdfhg1nfhg1dfhglfdfhgvf1)fhg2gggpnvwx2<gkhMrgxf[k2qhqm<p<r*ssfgffs2*hdjfgp1fgfql",
    "2)m1qk2kq:frjrq1mgjr1rj[lq1k!j1:f?gqlptdntfw1z2shpzns3*s1(nph1xgqk1qggxgf1lkJ<gkg1kgkgmfdf",
    "dfdf:g1=flfdhgflhhgkjskgflwf1zf*d?dtdxs1*sjdhrzdjdgpfdgkldfdfdfwghkjjdz1n2M(7jlns1kfdkdg1(",
    "mdw(plflflflflflflflf;Jkg[vfjgjj2<gfggf2:k1qf2%z;1xwJd6F;2dPNs2h1tg8sh!=1wjpf3+1kng3lg2ggf",
    "fdfm<1<jd*1*s2kqpl(hdf1xg1hs?h2dvql:f1>ptgpl>h2n)ggwgjqkgkgkplflf1qftl3]ffgplBZhs>j1x88jCt",
    "g3p1llsjkrfsfjfdfffff3r1f4ql6[+1;g1<1nplwxwhf)g1fdfdhdfdfdfdf3%*pm[jdf[q2[hkgkgkgg1hrf[f+f",
    "ffvgt1g3]2k1=4nd4g?h1xwd;;t%k1qk%g1hjmfj1q4%gpl1hj1hj1mn1*sqfvflfffqfvflffh1*s9>p<qm)kf1pf",
    "n2kkgdf1rffhdg>q>p:2f+ffq<q[2l1(lf2dhffkmfgf?ggjd1d?h?1hmf%[1<q<q+tz3v2n1(1+t1+t1mnpl1khjf",
    ">7]1pffhfxg1(1dqdn1d;<1q=!>p2l;wp1!mdt)mpl1=fpjhn1hgdp2jjhfsfd1hzf1jlh1:lfdfhfvfpm1]kplhfm",
    "gfg<flfffjfpgfgggdldklglhjrpfdgdf1kfpfdgdfhfmtf%2qkpjh:2kfdnp5l1<gn(k1g2dhdrp1l1)mpl*?]gvj",
    "pll5[1]3k2p<mgdgmfff%ffgnsp2lmg1tgmff!1:ndn2phd+2n6m1dwplnf1sfnwp)%g<ft2plfff1rhdfffnnplkf",
    "ff1jfffkmp9>>pxf1nhjtq2<d2wX[3l3vz6h2Ls3dw11wx<q3X]kLl6P[1[1QlK)m:fpl2vfpl%gjr1>phspp=k+Fx",
    "1shp6l1;4d2qj1)mx2dfffrfv5c(n16<1pp8Rmhflfff9gwd%ggdvhnDr28j3qkshnmphf42zpJl1tg>J:jhknmgl:",
    "h4=gF!2=f2lffgdgfghfrfdflf2dfhgmflf!fhfjfdhlfB*g)f)f:f)f:f)f:f)f:f)fmg1zJd1>j1zndvd>jfv12x",
    ":lk6<lfxglfffjk1%1fd3x1shtgpjdBf:z1[G>1p6>1qHklfhfffvf6jrl1p2rjp15lhf]fffdgdfpfhfdfdldjdfd",
    "fdfgfffdgdfdfdfdfdfffdghflfhfhfdfpfxkgfjfx39=p10l19Q;1d41[l6%g5Nfv79xwMt2FgJ%1Hg4Vqk42;PRB",
    "x7w"]),
  (["XID_Start", "XIDS"],
   ["2f[l[1wdqdjdk>f:fGpjrvjmdfd4fjffhgfdldfgfdf*f2+f4qn5kf1kgdl1n2m]jh1t1q1hff3gfdwfmfqggdxdf%",
    "%2)rd)1dpfjdk<jdpdhd()mqk(fkz1p1]1<hd+dmpwwjmgfg<flfdhhhdxdtffgvfqdnkjfg<flffffff;hfd*gxnf",
    "gf<flfffjhd+dwf(drmgfg<flfffjhd:ffgwdzdfkhgfhhffdffhfhghr>d1=mfgf>fwhd]ggdgf:djmfgf>fpfjhd",
    ";fffwfznfgf1ngdxdkgng)kkzh(fnfdgl1]1wfdtl1]ffdfjf(fdfpfdqdgjfd<h1dd1;mf1h!j3*1q=dxkjhhdhfm",
    "gjssdz1kfdkdg1qfBsfhglfdfhg1nfhg1dfhglfdfhgvf1)fhg2g1kwx2<gkhMrgxf[k2qhqmzt+vzvsfgw1*1hdjd",
    "2h2)m1nfdk2kq:1z%gjr1rj[1>>p1=2+d2%1vzm1>%tfq1r]1h1pgq1hgqk1qgg1phfkffhdk5;2d8<gkg1kgkgmfd",
    "fdfdf:g1=flfdhgflhhgkjskgfl3=dtdxs3kdjdgpfdgkldfdfdfwghkjjdz1n2M(7jlhhfs1kfdkdg1(mdx>plflf",
    "lflflflflflKlg[nmjgjj2<lgf2[fhk1qf2%z;1xwJd6F;2dPNs2h1tg8shwqf=1vx:g2w1mng3lg2ggffdfm<wfgf",
    "hf>%1*v1z1:khdffr!q>[?m1v?dxjfpqjf1n(gfm=>hdh1zfdhfgjgdfd)ggqmgskgkgkplflf1qftl3+%BZhs>j1x",
    "88jCtg3p1llsjkdfpfsfjfdfffff3r1f4ql6[+1;g1<1np3(dfdhdfdfdfdf3%1j[l[r1(g:hkgkgkgg1hrf[f+fff",
    "vgt1g3]2k1=8r?h1x1w;t%k1kq%g1hjmfj1q4%+1hj1hj1mn1*sqfvflfffqfvflffh1*s9>p<qm)kf1pfn2kkgdf1",
    "rffhdg>q>p:2f+ffq<q[2l1(lf2ddwhfgf?1q?h?1hmf!!1<q<q+tz3v2n1(1+t1+t1h1l!p>7]1plfxg1!?qdn<1q",
    "z1v=!>s1=1[fgdt1s1d)]1h%dgdn1ghds1wvh<dfd1hzf)*f1;lfdfhfvfpm1v1lmgfg<flfffjhd+dsj:pfdgdf1k",
    "fd[dfd1s1=+h=g:1w=ffd5)1v1ph1j1w=d1!1qtd2m]1kl5[1r3=1;;mgdgmfff(wdfd2:mg1lxdfd?dq1mmd<dr1t",
    "*d+2n6m1d;nf1jzd1z%3xlfff1k<d[kfff;vdBm+wdfsf1f3?d2wX[3l3vz6h2Ls3dw11wzk[3X]kLl6P[%1RgK)m:",
    "z2vz%+1wxh;=k+Fx1s6*1;4d2qkd2gs2dffd?5c(n16<1pp8Rmhflfff9gwd%ggdvhnDr28j3qkshnmp5Wl2=f2lff",
    "gdgfghfrfdflf2dfhgmflf!fhfjfdhlfB*g)f)f:f)f:f)f:f)f:f)fm1T=:lk8k1%4+1sqlxdBf%+1rHj!7j%gdHw",
    "lfhfffvf6j1!2hmd15=hf]fffdgdfpfhfdfdldjdfdfdfgfffdgdfdfdfdfdfffdghflfhfhfdfpfxkgfjfx4Bj19Q",
    ";1d41[l6%g5Nfv79xwMt2FgJ%1Hg4Vqk42;"])]

def property? (name : String) : Option CharSet :=
  if isNamed ["White_Space", "WSpace", "space"] name then some Text.blanks else
  if isNamed ["Alphabetic", "Alpha"] name then some alphabetic else
  if isNamed ["Case_Ignorable", "CI"] name then some caseIgnorable else
  if isNamed ["Cased"] name then some cased else
  if isNamed ["Grapheme_Extend", "Gr_Ext"] name then some graphemeExtend else
  if isNamed ["Join_Control", "Join_C"] name then some joinControl else
  (tabulated.find? fun (names, _) => isNamed names name).map fun (_, table) => readSet table

end StringScript.Unicode
