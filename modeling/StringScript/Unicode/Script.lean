import StringScript.Unicode.Table

/-!
# Scripts

The script of every code point and the scripts that it is used with (Unicode 16.0).
-/

namespace StringScript.Unicode.Script

def names : List (List String) := [
  ["Adlam", "Adlm"],
  ["Ahom"],
  ["Anatolian_Hieroglyphs", "Hluw"],
  ["Arabic", "Arab"],
  ["Armenian", "Armn"],
  ["Avestan", "Avst"],
  ["Balinese", "Bali"],
  ["Bamum", "Bamu"],
  ["Bassa_Vah", "Bass"],
  ["Batak", "Batk"],
  ["Bengali", "Beng"],
  ["Bhaiksuki", "Bhks"],
  ["Bopomofo", "Bopo"],
  ["Brahmi", "Brah"],
  ["Braille", "Brai"],
  ["Buginese", "Bugi"],
  ["Buhid", "Buhd"],
  ["Canadian_Aboriginal", "Cans"],
  ["Carian", "Cari"],
  ["Caucasian_Albanian", "Aghb"],
  ["Chakma", "Cakm"],
  ["Cham"],
  ["Cherokee", "Cher"],
  ["Chorasmian", "Chrs"],
  ["Common", "Zyyy"],
  ["Coptic", "Copt", "Qaac"],
  ["Cuneiform", "Xsux"],
  ["Cypriot", "Cprt"],
  ["Cypro_Minoan", "Cpmn"],
  ["Cyrillic", "Cyrl"],
  ["Deseret", "Dsrt"],
  ["Devanagari", "Deva"],
  ["Dives_Akuru", "Diak"],
  ["Dogra", "Dogr"],
  ["Duployan", "Dupl"],
  ["Egyptian_Hieroglyphs", "Egyp"],
  ["Elbasan", "Elba"],
  ["Elymaic", "Elym"],
  ["Ethiopic", "Ethi"],
  ["Garay", "Gara"],
  ["Georgian", "Geor"],
  ["Glagolitic", "Glag"],
  ["Gothic", "Goth"],
  ["Grantha", "Gran"],
  ["Greek", "Grek"],
  ["Gujarati", "Gujr"],
  ["Gunjala_Gondi", "Gong"],
  ["Gurmukhi", "Guru"],
  ["Gurung_Khema", "Gukh"],
  ["Han", "Hani"],
  ["Hangul", "Hang"],
  ["Hanifi_Rohingya", "Rohg"],
  ["Hanunoo", "Hano"],
  ["Hatran", "Hatr"],
  ["Hebrew", "Hebr"],
  ["Hiragana", "Hira"],
  ["Imperial_Aramaic", "Armi"],
  ["Inherited", "Zinh", "Qaai"],
  ["Inscriptional_Pahlavi", "Phli"],
  ["Inscriptional_Parthian", "Prti"],
  ["Javanese", "Java"],
  ["Kaithi", "Kthi"],
  ["Kannada", "Knda"],
  ["Katakana", "Kana"],
  ["Kawi"],
  ["Kayah_Li", "Kali"],
  ["Kharoshthi", "Khar"],
  ["Khitan_Small_Script", "Kits"],
  ["Khmer", "Khmr"],
  ["Khojki", "Khoj"],
  ["Khudawadi", "Sind"],
  ["Kirat_Rai", "Krai"],
  ["Lao", "Laoo"],
  ["Latin", "Latn"],
  ["Lepcha", "Lepc"],
  ["Limbu", "Limb"],
  ["Linear_A", "Lina"],
  ["Linear_B", "Linb"],
  ["Lisu"],
  ["Lycian", "Lyci"],
  ["Lydian", "Lydi"],
  ["Mahajani", "Mahj"],
  ["Makasar", "Maka"],
  ["Malayalam", "Mlym"],
  ["Mandaic", "Mand"],
  ["Manichaean", "Mani"],
  ["Marchen", "Marc"],
  ["Masaram_Gondi", "Gonm"],
  ["Medefaidrin", "Medf"],
  ["Meetei_Mayek", "Mtei"],
  ["Mende_Kikakui", "Mend"],
  ["Meroitic_Cursive", "Merc"],
  ["Meroitic_Hieroglyphs", "Mero"],
  ["Miao", "Plrd"],
  ["Modi"],
  ["Mongolian", "Mong"],
  ["Mro", "Mroo"],
  ["Multani", "Mult"],
  ["Myanmar", "Mymr"],
  ["Nabataean", "Nbat"],
  ["Nag_Mundari", "Nagm"],
  ["Nandinagari", "Nand"],
  ["New_Tai_Lue", "Talu"],
  ["Newa"],
  ["Nko", "Nkoo"],
  ["Nushu", "Nshu"],
  ["Nyiakeng_Puachue_Hmong", "Hmnp"],
  ["Ogham", "Ogam"],
  ["Ol_Chiki", "Olck"],
  ["Ol_Onal", "Onao"],
  ["Old_Hungarian", "Hung"],
  ["Old_Italic", "Ital"],
  ["Old_North_Arabian", "Narb"],
  ["Old_Permic", "Perm"],
  ["Old_Persian", "Xpeo"],
  ["Old_Sogdian", "Sogo"],
  ["Old_South_Arabian", "Sarb"],
  ["Old_Turkic", "Orkh"],
  ["Old_Uyghur", "Ougr"],
  ["Oriya", "Orya"],
  ["Osage", "Osge"],
  ["Osmanya", "Osma"],
  ["Pahawh_Hmong", "Hmng"],
  ["Palmyrene", "Palm"],
  ["Pau_Cin_Hau", "Pauc"],
  ["Phags_Pa", "Phag"],
  ["Phoenician", "Phnx"],
  ["Psalter_Pahlavi", "Phlp"],
  ["Rejang", "Rjng"],
  ["Runic", "Runr"],
  ["Samaritan", "Samr"],
  ["Saurashtra", "Saur"],
  ["Sharada", "Shrd"],
  ["Shavian", "Shaw"],
  ["Siddham", "Sidd"],
  ["SignWriting", "Sgnw"],
  ["Sinhala", "Sinh"],
  ["Sogdian", "Sogd"],
  ["Sora_Sompeng", "Sora"],
  ["Soyombo", "Soyo"],
  ["Sundanese", "Sund"],
  ["Sunuwar", "Sunu"],
  ["Syloti_Nagri", "Sylo"],
  ["Syriac", "Syrc"],
  ["Tagalog", "Tglg"],
  ["Tagbanwa", "Tagb"],
  ["Tai_Le", "Tale"],
  ["Tai_Tham", "Lana"],
  ["Tai_Viet", "Tavt"],
  ["Takri", "Takr"],
  ["Tamil", "Taml"],
  ["Tangsa", "Tnsa"],
  ["Tangut", "Tang"],
  ["Telugu", "Telu"],
  ["Thaana", "Thaa"],
  ["Thai"],
  ["Tibetan", "Tibt"],
  ["Tifinagh", "Tfng"],
  ["Tirhuta", "Tirh"],
  ["Todhri", "Todr"],
  ["Toto"],
  ["Tulu_Tigalari", "Tutg"],
  ["Ugaritic", "Ugar"],
  ["Vai", "Vaii"],
  ["Vithkuqi", "Vith"],
  ["Wancho", "Wcho"],
  ["Warang_Citi", "Wara"],
  ["Yezidi", "Yezi"],
  ["Yi", "Yiii"],
  ["Zanabazar_Square", "Zanb"]]

/-- The code points by script; the place after the last script stands for none. -/
def table : List String :=
  [")2d2p[)k2p[)1v2pd)v2pd)j2p>)d2p:)d2pGd)1l2pj)jsf)*1[3w1sh)d1sg5qf1sh)d1sd5qh1sd)d1sd)d1sg5",
   "qd1sd5qd1s*5qd1s1:[t1sw%4j1[f%5n5qdj1k5qfj1z5qfjg5qd1>1>5qm1>]5qh1>k5qqhj)dhk)dht)dhg)dh;)",
   "dhp1[qh[1[dh3r)dh1f4wt5qd4w1!5qf4wgh1w4]1z5qt3n1]5qf3ng4g1t5qf4gv5qd2=!5qf2=d5qd4wq5qjh:5q",
   "dhf5qjh2q)dh?;2x1[h;v)f;[qh5qdqm5qfqf5qfq<5qdql5qdqd5qgqh5qfqn5qfqf5qfqh5qmqd5qhqf5qdqj5qf",
   "q)5qf1wg5qd1wk5qh1wf5qf1w<5qd1wl5qd1wf5qd1wf5qd1wf5qf1wd5qd1wj5qh1wf5qf1wg5qg1wd5ql1wh5qd1",
   "wd5ql1wx5qp1tg5qd1tn5qd1tg5qd1t<5qd1tl5qd1tf5qd1tj5qf1tp5qd1tg5qd1tg5qf1td5qv1th5qf1tr5ql1",
   "tl5qd3(g5qd3(m5qf3(f5qf3(<5qd3(l5qd3(f5qd3(j5qf3(n5qf3(f5qf3(g5ql3(g5qh3(f5qd3(j5qf3(z5qp4",
   ">f5qd4>k5qg4>g5qd4>h5qg4>f5qd4>d5qd4>f5qg4>f5qg4>g5qg4>r5qh4>j5qg4>g5qd4>h5qf4>d5qk4>d5qt4",
   ">=5qj4[s5qd4[g5qd4[>5qd4[w5qf4[n5qd4[g5qd4[h5ql4[f5qd4[g5qf4[d5qf4[h5qf4[p5ql4[n1:s5qd1:g5",
   "qd1:>5qd1:p5qd1:j5qf1:n5qd1:g5qd1:h5ql1:f5qk1:f5qd1:h5qf1:p5qd1:g5qr2*s5qd2*g5qd2*1+5qd2*g",
   "5qd2*k5qh2*w5qf2*[5qd4ng5qd4nz5qg4n(5qd4nn5qd4nd5qf4nl5qg4nd5qh4nk5qd4nd5qd4nm5qk4np5qf4ng",
   "5qr4!1[5qh)d4!!5q1j2nf5qd2nd5qd2nj5qd2n(5qd2nd5qd2n>5qf2nj5qd2nd5qd2nl5qd2np5qf2nh5q;4?2m5",
   "qd4?1h5qh4?1l5qd4?1h5qd4?v5qd4?l)h4?f5q1j3g4;1n1k5qd1nd5qj1nd5qf1n1q)d1nh1+7;1l2n5qd1lh5qf",
   "1ll5qd1ld5qd1lh5qf1l1n5qd1lh5qf1l1d5qd1lh5qf1ll5qd1ld5qd1lh5qf1lv5qd1l1)5qd1lh5qf1l2g5qf1l",
   ";5qg1l[5qk>2<5qf>k5qfzM;3r?5qg4f2q)g4fq5ql4x<5qn4xd1==)f5qnx*5qr4zs5qd4zg5qd4zf5qr2j2%5qf2",
   "jp5qk2jp5qk2;f)f2;d)d2;*5qk2;2)5ql2;1q5qjz2k5qp2r:5qd2rr5qh2rr5qh2rd5qg2rr4+%5qf4+j5qq3l1r",
   "5qh3l[5qk3lq5qg3lf2j;w!5qfwf4*1:5qd4*?5qf4*q5qk4*p5qk4*t5qf1[:5q1xl2s5qdl1z4s1;p1*5qmph2q1",
   "(5qg2qv5qg2qg3s1w%q5qj1n1q5qf1ng4sm5qm1[g)d1[s)d1[l)h1[d)k1[d)g1[f)d5qj2p1k1sj%d2p1x1sj2ph",
   "1sj2ps%d2p2k1sd1[1;2p7;1s<5qf1sk5qf1s1k5qf1sk5qf1sm5qd1sd5qd1sd5qd1sd5qd1s:5qf1s1=5qd1sv5q",
   "d1st5qf1sk5qd1s+5qf1sg5qd1sn5qd)r1[f)2>5qd)q2pd5qf)q2pd)v5qd2ps5qg)1d5qv1[1d5qv)1k1sd)g2pf",
   ")k2pd)]2pd)x2p1n)g5qh)N[5q<)q5q=)X;v7;)M*5qf);5qd)3n1p2;2p;[3*5qj[l1n1k5qd1nd5qj1nd5qf4%1(",
   "5ql4%f5qt4%d1l>5qn1ll5qd1ll5qd1ll5qd1ll5qd1ll5qd1ll5qd1ll5qd1ll5qd%;)2%5q1f1z[5qd1z2)5qr1z",
   "6<5q[)=1zd)d1zd))1zn1[h1+f)m1zh)h5qd1(2<5qf1[f)f1(g)d1;2[)f1;g5qjs1q5qd1+2%5qd)ws;)1k5qn)d",
   "1;w1+:5qd)1;1+:)2x1;1v)d1;2()5m1z6F;)1;1zNH;5n14s5qg5n1>5qn2v1w5h9r5q*%2;m2(5qm)1f2p3k)g2p",
   "2g5qf2pf5qd2pd5qd2pm5q=2pt4v1s5qg)p5qk3%1(5qm4h2k5qm4hr5qk;;2f1t)d2fd4d1h5qq4dd1+?5qg1?2t5",
   "qd)d1?p5qh1?f3g:5qd<1>5qn<t5qf<p5qf<h3g;4=2g5q(4=j2[>5qp1lk5qf1lk5qf1lk5qn1ll5qd1ll5qd2p1q",
   ")d2pn1sd2ph)f5qh>2w2[1t5qf2[p5qk1+BZh5qr1+>5qh1+1x5q88h1zCt5qf1z3p5q1k2pl5qrjj5qj1>[5qd1>j",
   "5qd1>d5qd1>f5qd1>f5qd1>ph3+5qwhCq)fh2w5qfh1<5qlhd5q;hw1[w)p5qk1[t%f)1g5qd)+5qd)h5qhhj5qdh4",
   "l5qf)d5qd);2p[)k2p[)q1;p)d1;1s)f1+:5qg1+k5qf1+k5qf1+k5qf1+g5qg)l5qd)l5qp)j5qf2tr5qd2t[5qd2",
   "t+5qd2tf5qd2tv5qf2tt5q1f2t3]5qj)g5qh)1s5qg)n1s2v5qd)s5qg1sd5q1v)1s1[d5q4f2w?5qg+1x5qv1[d)]",
   "5qh3w1h5qn3wg1q]5qj3z1q5qj5g%5qd5gd3+1h5qh3+t5q1p:2w4k1w3[%5qf3[p5qk3)1h5qh3)1h5qh1j1m5qm*",
   "1*5qq*d5jq5qd5jv5qd5jl5qd5jf5qd5jq5qd5jv5qd5jl5qd5jf5qg4;1*5qr2s9>5qn2s<5qp2sm5q(2pk5qd2p1",
   "p5qd2pn5q2j!k5qf!d5qd!1r5qd!f5qg!d5qf!d1)<5qd1)n3!;3h:5qm3hn5q1w1<+5qd1<f5qj1<j3:!5qg3:d2x",
   "[5qj2xd5q1;2?;2!(5qh2!*5qf2!1t2gh5qd2gf5qj2gm5qd2gg5qd2g?5qf2gg5qh2gp5ql2gn5ql3=;3x;5q;2<1",
   "l5qh2<r5qnk1<5qgkl1!<5qf1!m1]+5qj1]m3;z5ql3;h5qr3;l5q2w3<2n5q1>3v1+5qs3v1+5ql3vk1*1m5qm1*p",
   "5qk1m1k5qg1m?5qm1mf5q6wh:5qd5m1p5qd5mg5qf5mf5qwhg5q1>hh3*1m5qm4p1p5q<3>[5q1k(!5q*1k>5qnt2t",
   "5qht1h5qntd1%2g5qp1%d5qf4q)5ql4qp5qk=1=5qd=z5qm2z1l5qn4j2;5qd4n*5qq2kz5qd2k1v5q1%3fl5qd3fd",
   "5qd3fh5qd3fv5qd3fq5qk2l1]5qj2lp5qk1rh5qd1rm5qf1rf5qf1r<5qd1rl5qd1rf5qd1rj5qd1[d1rn5qf1rf5q",
   "f1rg5qf1rd5qk1rd5qj1rl5qf1rl5qg1rj5qq5fp5qd5fd5qf5fd5qd5f1k5qd5fp5qd5fd5qf5fd5qd5fh5qd5fp5",
   "qd5ff5qm5ff5q?3m2!5qd3mj5q%4:2m5qm4:p5q5k4l1<5qf4l1k5q1f2:2j5qq2:p5qk2;s5q+4<1[5qk4<p5qk3g",
   "*5q!f]5qffv5qhf>5q5)1f1!5q3h5l2+5qr5ld1dl5qf1dd5qf1dm5qd1df5qd1d%5qd1df5qf1dr5qn1dp5q2k3km",
   "5qf3k1t5qf3kq5q]5p2m5qm4r2+5qszw3?1)5ql;p5q5<4t1f5qt4tp5qkrn5qdr1s5qdrt5qpr?5qg2>;5qf2><5q",
   "d2>t5q2n2(l5qd2(f5qd2(1r5qg2(d5qd2(f5qd2(n5qm2(p5qk1vk5qd1vf5qd1v1j5qd1vf5qd1vk5ql1vp5q9<2",
   "+)5ql2dx5qd2d1n5qg2d?5q2=2vd5qv4>1z5qs4>d]X[5q3k]3v5qd]j5qq]6h5q2Lr?3g5qs1h12<5qp1h3X]5qjg",
   "Ll5q6P)1x1[5q1QkmK)5ql3d:5qd3dp5qh3df4(2v5qd4(p5qkn%5qfnk5qp3]2k5qp3]p5qd3]l5qd3]=5qj3]+5q",
   "Fw2m1[5q6k2)2]5q3j2%2q5qh2%1)5ql2%x5q1;4)d3pd1zf2hd5qq1zf5qt4)5c(5qm4)R;2hG<5q1n2hd4)n5q8R",
   "l1;h5qd1;l5qd1;f5qd1;d1(8:1;g5qv1(d5q?1(g5qf1;d5qt1;h5qm3pDr5q28h1g3q5qj1gs5qg1gn5ql1gp5qf",
   "1gh)h5q3V!)7[5qk)F*5q2r1[1t5qf1[>5qn)3*5q1!)7<5qp)1l5qf)1%1[g)x1[m)f1[l)%1[h)1?5q=1s2k5q3[",
   ")*5qr)*5qr)2>5qn))5q4l)2=5qd)2l5qd)f5qf)d5qf)f5qf)h5qd)r5qd)d5qd)l5qd)2d5qd)h5qf)m5qd)l5qd",
   ")!5qd)h5qd)j5qd)d5qg)l5qd)B*5qf)9h5qf)1z4mNr5qv4mj5qd4mv5q12w2p:5qk2pk5q6=1pl5qd1px5qf1pl5",
   "qd1pf5qd1pj5qj%1%5q1d%d5q3w3q1s5qg3qt5qf3qp5qh3qf5q9;5d:5qx5k1[5qj5kd5qGw3j1p5q6<3t1q5qh3t",
   "d5qG;1ll5qd1lh5qd1lf5qd1lv5qd2]6j5qf2]w5q1nd2r5qhdp5qhdf5qSx)2h5q2r)1?5q6fhh5qdh]5qdhf5qdh",
   "d5qfhd5qdhp5qdhh5qdhd5qdhd5qkhd5qhhd5qdhd5qdhd5qdhg5qdhf5qdhd5qfhd5qdhd5qdhd5qdhd5qdhd5qdh",
   "f5qdhd5qfhh5qdhl5qdhh5qdhh5qdhd5qdhp5qdhx5qjhg5qdhj5qdhx5q1*hf5q8t)1r5qh)3h5qr)v5qf)v5qd)v",
   "5qd)1j5qp)5t5q1()[1(d)f5qs)1r5qh)n5ql)f5qt)k5q4[)b(5qh)x5qg)s5qg)3>5qh)2:5qk)r5qh)d5qv)r5q",
   "h)1(5qm)p5qk)1m5qm)%5qf)r5qh)f5q1%)B*5qr)t5qf)s5qg)p5qj)1(5ql)v5qf)q5qk)n5ql)4+5qd)3k5q10k",
   "1z19Q;5q;1z41[5qk1z6%5qf1z5Nf5qt1z79x5qv1zMt5q2Ff1zJ%5q1Hf1z4Vq5qj1z42;5qPR2x)d5q%)2;5q3;1",
   "[7w5q5cJw"]

/-- The code points whose scripts of use are not just their own script: distance, number of further
members, number of scripts and the scripts, for each run. -/
def extensionTable : List String :=
  ["5(dxk+[1g1j1n1p1q1s1v1z2p2x2z3z4kJjdmq%;2p2v4!5dqdgs2pfggs2pfdg2p2vpdg2p4!fdgs2p1ldn>[%1s2",
   "p3z4t4+ddn>%1s2p3)4t4+4;ddj>%2p4%ddk1p2p4t4w4!ddr*>[%1q1s2p3)4w4%4;ddl[1j1p1q1;2pddj%1s2p3",
   "zddp[1g1>2p3z4w4+4%4;ddqj%1g1q1s1>2p3z4w4+ddg2p4%ddh1g2p4wddj>%2p3)ddh>2p4+ddg2p4tddg1l2pf",
   "dg2p4tddh%2p4;fdj1s2p3z4;sdg2p4wgdk>1g1;2p4wddj>1g2p4wddg2p4wmdh2p4t4wddg2p4wfdh>2p4wddl*>",
   "1q2p4t4!xdf1sgdf1s+dg2p3)kdh*2p4;jsf2pjfg[1s8tdg%3zddg%1pdfg%2pddg%1p8fdhj1n1p4gdmh1m1*3n4",
   "w4]5mvdmh1m1*3n4w4]5mddhh4w4]gdndh1m1*3n4w4]5m1ddpdh1*2=2<3>3;4p4wqqgh4wqphh4]5mldgh4w3hdg",
   "h1*M?dtq;1r1t1w1:2p2*3(4j4>4[4:ddsq;1r1t1w1:2p2*3(4>4[4:zd<q;1f1r1t1v1w1:2l2z2*2(3k3t3(4n4",
   "v4<4>4[4:dd(q;1f1r1t1v1w1x1:2l2r2z2*2(3k3t3(4n4v4<4>4[4:dpj;1f1%2z3>phq=4v3>pg1w3f3>pg1t2k",
   "7>tg1r4>7+ph1:3k5fVxph=3g4+5zdh1n1p2p1Hwgf4f2mfjx1=4x4z6rfg2;3%fdg2;3%16qdjq;1r1:ddf;ddjq;",
   "1r1:ddh;1r1:ddf;dfgq;ddg;4jddgq;ddg;4jddl;1:2*3(4>4[ddf;dfg;4jdff;ddg;4jddgq;dlf;ddg;3kddg",
   "q;dff;ddgq;dhf;ddrq;1r1:2*3k3(4n4[4:5fddg;1rddj;1r1:5fdfgq;ddfqdfg;1rddf3k6kff1s1>dh%2p4wf",
   "df4wK=dh2p2;3%;dgdhqdl+1n1p2w3v3<gdj+1s2?3v4+dh;1r2p39ldg[2p)dgk3<ddmk+1n1%2x3v4gqdf1gjdhd",
   "h3vfdg%1pFswg1z4)fdms1z1+1(1;2;5nddns1z1+1(1;2;3%5nddks1z1+1(1;gdf1zffns1z1+1(1;2;4?5ndfps",
   "1z1+1(1;2v2;4?5ndkls1z1+1(1;5nfdks1z1+1(1;dmls1z1+1(1;5ndhks1z1+1(1;qhgs1zgdks1z1+1(1;djg1",
   "(1;fdks1z1+1(1;jfh1z1(1;dff1z2[hg1(1;hdg1(1;2]dls1z1+1(1;5nddg1(1;4*wf1z1d1kf1zpdg1z4)1x1m",
   "f1z1)1xf1zwrf1z1*df1z2))f1zqjf1z3d:f1zXMxdg%1p4xmg1z2p9ngx;1f1t1w1%1:2k2l2z2*2:3k4j4<4:5fd",
   "gw;1f1t1w1%1:2k2l2z2:3k4j4<4:5fdfr;1f1t1w1%2k2l2z2:4<4:dds;1f1t1w1%2k2l2z2:4j4<4:ddr;1f1t1",
   "w1%2k2l2z2:4<4:5(dhq;5ffdg;4>1]dh2f2p3g5ddgw1?NWvfgh3n5+dgh4]qdgh4]2mfks1z1+1(1;8]jls1z1+1",
   "(1;5nqdg1(1;1tfg1(1;Cdfh!?2tddg!2tj1sh!2s2thng!2tFd!gh[1c>dg2<3>20vdg1r4>fdg1r4>1(fg1r4>34",
   "*fg1r4>fdg1r4>176shf1g5P?zf1z7Q:ff1z"]

def place? (name : String) : Option Nat :=
  names.findIdx? fun scriptNames => isNamed scriptNames name

def named? (name : String) : Option CharSet :=
  (place? name).map fun place => readKinds table [place]

/-- The runs of the extension table from the code point `start` on, each with its scripts. The fuel
bounds the runs. -/
def readExtensions : Nat → Nat → List Nat → List ((Nat × Nat) × List Nat)
  | fuel + 1, start, distance :: more :: count :: rest =>
    let lo := start + distance
    ((lo, lo + more), rest.take count) :: readExtensions fuel (lo + more + 1) (rest.drop count)
  | _, _, _ => []

def extensions : List ((Nat × Nat) × List Nat) :=
  let written := numbers extensionTable
  readExtensions written.length 0 written

def usedWith? (name : String) : Option CharSet :=
  (place? name).map fun place =>
    let listed : CharSet := .ofRanges (extensions.map (·.1))
    let members : CharSet := .ofRanges <|
      extensions.filterMap fun (range, scripts) =>
        if scripts.contains place then some range else none
    ((readKinds table [place]).diff listed).union members

end StringScript.Unicode.Script
