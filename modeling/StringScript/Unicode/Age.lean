import StringScript.Unicode.Table

/-!
# Ages

The version of Unicode that assigned each code point.
-/

namespace StringScript.Unicode.Age

/-- The versions, oldest first, each with its names. -/
def versions : List (List String) := [
  ["1.1", "V1_1"], ["2.0", "V2_0"], ["2.1", "V2_1"], ["3.0", "V3_0"], ["3.1", "V3_1"],
  ["3.2", "V3_2"], ["4.0", "V4_0"], ["4.1", "V4_1"], ["5.0", "V5_0"], ["5.1", "V5_1"],
  ["5.2", "V5_2"], ["6.0", "V6_0"], ["6.1", "V6_1"], ["6.2", "V6_2"], ["6.3", "V6_3"],
  ["7.0", "V7_0"], ["8.0", "V8_0"], ["9.0", "V9_0"], ["10.0", "V10_0"], ["11.0", "V11_0"],
  ["12.0", "V12_0"], ["12.1", "V12_1"], ["13.0", "V13_0"], ["14.0", "V14_0"], ["15.0", "V15_0"],
  ["15.1", "V15_1"], ["16.0", "V16_0"]]

/-- The code points by version; the place after the last version stands for none. -/
def table : List String :=
  ["dH<hhd%hmkdldhzlgmqntd2)hjlfd1vhddphjlxd2khnkdlmmjlgdfhdksphdfpf!fddngddwd!hdl!ddd!dd*!dd1",
   "rpddlhdkfddhdddhdddhdddhddzjfkdljmhhddrhdd2fhddrhdd1npdhfkfhhd1=kfdfkfdfkfndd!hfdmmfdfnkkw",
   "nhpwqfrfwm!dd1k!fdl*dd1l*dddhd!fwfsd!dfxmdfsdpnddnfdmg!md]!h*ddj!qlhsdwdpjmdddlnpjddvd(dmd",
   "ddrdd[pjd+hglgmkrddtkfd2mhfdjhddvhdd%lfdphjldht!dh%lgh]!flgm%pzh1xkd!tn1]!f*gq1t!fqv!dr!!f",
   "rd!d+q!j(:!d(f!j]d(msdwdsqwkxf(dzm>p(q*dzvxds]wdqddgldd1=rfdzqdrddjqdrfd)pfrjwdqfnfmdnfwdd",
   "g!ddm!fdf!fd<!ddl!ddd!gdh!fddlddl!fdf!fdgmd!mdd!hdf!ddj!fd=qd+f*d!fldddld!ddk!hdf!fd<!ddl!",
   "ddf!ddf!ddf!fdd!ddj!hdf!fdg!gpd!ldh!ddd!ldvpd*d!pdg!ddllddd!ddg!dd<!ddl!ddf!ddj!fdp!ddg!dd",
   "g!fdd!vddlg!fdpsdld!lxd+k!ddg!ddm!fdf!fd<!ddl!ddf!dlddh!fdmpd!fdf!fdg!l>ddf!hdf!ddgpf!fdql",
   "drk!pdf!ddk!gdg!ddh!gdf!ddd!ddf!gdf!gdg!gdmmddg!hdj!gdg!ddh!fpd!kdd!tmddrlm!jwddg*ddm!ddg!",
   "dd>!ddpwddj!f(dpddl!ddg!ddh!ldf!dpfxd!f(d!fdfpf!fdp!l=dpmzdwddf*ddm!ddg!dd>!ddp!ddj!flfdl!",
   "ddg!ddh!ldf!k(ddd!ddfnf!fdp!dnf)d!r+dwddf>ddm!ddg!dd>rddwrd+fpddkpd!ddg!ddhrdzd!hzgddzlxdd",
   "fpf!fdppkzgpl!d>dhf!dhz!gh(!dhn!dhd!fhl!ghd!hhk!dhd!dhm!kwp!fhg!rd1[!hd?!1jdf!ddd!d=ddf=dd",
   "d!d=ddd=kdh=ddl=ddg!ddd!ddd=fdf=dds=ddg!fdj!ddd!ddk)d!ddp!fdfsf!;f2m!df1dhdpf!hf]rhfkhdfd!",
   "df=hgflhdfdhg!dhv!dpdhdmfpgqhrf!1jh1fpdhjpdhfpdhlpghhpkh[p1;qhpfd1k!dsd!jsd!fd1lkfmfddmdsg",
   "d2[qjd2hqjd2zqkhlmdh1:mdhd!dhh!fhl!dhd!dhh!fh1lmdhd!dhh!fh:mdhd!dhh!fhl!dhd!dhh!fhlmdhl!dh",
   ">mdh:mdhd!dhh!fhlmdh1lmdh+!frfmfh!!gm[!kh2=xd!fxk!fqdhM<qnh?!gh2xwm!lks(dkl(d!n(dk>!nk*!rk",
   "s!dkg!dkf!rh2?ld!fhp!klp!khv(dhp!kh2(*d!lh1ppd!jq2k!pl?wf!dlr!hlr!hld!gl1p!flj!qm1pqf!hm[!",
   "kmpqd!gmfl;m!!fmfq1:!dq?!fqq!kqp!kqt!fwv>f(t!1xn2r(d!d]fn1s(f]dp1qsgprskr1*!mrhp1(!gpv!gp1",
   "+zn]f!j*1q!f*gsm!mq1gsh+dwf=d!jl3rm2(nlp!wv+h(dzdrdqdnfd4]fdphd2[pkd<!fdk!fd1k!fdk!fdm!ddd",
   "!ddd!ddd!dd:!fd1=!ddv!ddt!fdk!dd+!fdg!ddn!dd1vhdd>kdhkkjlfmfkdmlkjpd!dvhdlkd!fd]!dmjrm!gdq",
   "fdgdhgkfmhqgrdtdwgxd+d(d!vdzhfklmdnhpd!vd1)hfldmdkvmdnfpdqgd1whdndphqdxf!hd2]hnkrd7zktddhd",
   "d3)hdkdh%k1*lfmqnrqdrqwlzh+dd1jhf]g!<dq!=d4qk*ldd4<kpd2whmkmd*lfkfmdhdd2<hfkrmfkplmmqpdqfl",
   "fmwndppqgphqprdq+rdqdrhq(wddhrddhrfd!rdd1grdddrddhrgddqddlrfdlktd:rgd(rddtrdmlnhsdpdsdrfk!",
   "phkwh7;kH;ltmknlpjnhp1nwgpjqjw[!fw;!d>dw1f*gwr=dwm+d*)xh*v=dm1v(dm1v(dnspgqdpgnhpkqfm3qqls",
   "f!jm1s!dsd!jsd!fm1<sf!lmdrd!trdm>!nml!dml!dml!dml!dml!dml!dml!dml!dp;m(phmfp+qdspwlzf+j*j=",
   "d>g(q!1fh[!dh2)!rh6<![hr[hd1(hgkghddd!dd2*kf!fdkkfd2%kd!jd1mpd+d*d!dd2%!ddwh(rg>jmwp*]f!n[",
   "dkwd?lf!dd1hqrldkvd!lfmdd1zkvdrlhd1v<dd3>lhd3glfd:ldh6F<>pl1;dNFkm<pmqmsdxn+=*j>s(gh14s!gh",
   "zkfhwkdhrkdhgkdhd!nq1wp9r!*p;rfpzsmp!wkxdsdq2(!mm>nhpjnfp3qrfxdrfsfwrrpsdwgzd*dwfxk*f=k(f=",
   "j>h]g!f(f!d(d!d(j]g!=(g>fwdsfrdpjm1r>d!gqp!kn1(!mp2jzd!mpr!kq!xf*fp2*!qpdq?!gq2t!dqq!hqfw:",
   "!dp1>!npt!fpp!fphq!whq2g!(qjs>!prk!frk!frk!nrl!drl!dw1wxhwf=f>h!hx2wq1t!fqp!kfBZh!rq>!hq1x",
   "!20hd6Ktsfk1]qg!fm3p!1kdl!rdj!jhdd)!ddj!ddd!ddf!ddf!dd3rrw(d!wdCs(wd1;!fd1<!l(dj;drkdld(fk",
   "wmp!kdhpgwlxfd=kflfdp!dd+!ddh!hdgkddd!dd4l!fdd!dd2%kfd2%!gdk!fdk!fdk!fdg!gdl!ddl!phggddglr",
   "!dl[!dl+!dlf!dlv!flt!1fl3]!jlg!hl1s!glnm2qwfzf!dpr>d!gwd!1vp1t!4fp?!gp1x!vw!!hj:wdjh!n+gj]",
   "!jw1q!jl%!dldm1h!hmt!1pj1klfj1kl2w!flp!kz1h!hz1h!hw1m!mw1*!qwd(q!d(v!d(l!d(f!d(q!d(v!d(l!d",
   "(f!g]1*!rw9>!nw<!pwm!((k!d(1p!d(n!2jlk!fld!dl1r!dlf!gld!fldq<!dqnw1:!mwn!1wx+!dxf!jxjn[qf!",
   "gndp[!jpd!1;s1(!hxfsfxw!fx1tmh!dmf!jmm!dmg!dm]*f!fmg!hmn*d!lmn!lq;w;!;w1l!hwr!nq1<!gq?!fq]",
   "!jqmwz!lwh!rwl!2wq2n!1>x1+!sx1+!lxk*1m!m*p!k]1k!g]?!m]f!6wq:!d>1p!d>g!f>f!w]g!1>]d)g*1m!m*",
   "1p!<([!1k>!!*=>!nr2t!hr%(k!nwdq2f(d!p*d!fs)!lsp!ks1=!dst*g>d!mw1l!ns2nxhwd>fspwdxj!dw*!qwz",
   "!dw1qzd)g!1%xl!dxd!dxh!dxv!dxq!kw1]!jwp!kxdwg!dwm!fwf!fw<!dwl!dwf!dwj!d*dwn!fwf!fwg!fxd!kw",
   "d!jwl!fwl!gwj!q]p!d]d!f]d!d]1k!d]p!d]d!f]d!d]h!d]p!d]f!m]f!?z2[>dzd!dzd*d=d>f!%w2m!mwp!5kw",
   "1<!fwzx*!1fw2j!qwp!kzs!+s1(=d(d!ksp!k]*!!x[*d!fxv!hxw(l!5)*1!!3hw2+!rwd>l!f>d!f>m!d>f!d>%!",
   "d>f!f>r!n>p!2k=m!f=1t!f=q!]+2m!m+1*=f+>*d+j!s(ww1)!l)p!5<]1f!t]p!kzn!dz1s!dzt!pz?!gz;!fz<!",
   "dzt!2n+l!d+f!d+1r!g+d!d+f!d+n!m+p!k*k!d*f!d*1j!d*f!d*k!l*p!9<*)!l)x!d)1n!g)!]d!2=>d!v=1z!s",
   "=dnWvw1pxd!3kn3gwr!dnhwd!qx6h!2Lr(3g!sq11v)d=n)?!p]3X]!jxLl!6P)]1[!1QkrK)!lw:!dwp!hwf(2v!d",
   "(p!kw%!fwk!pw2k!pwp!dwl!dw=!jw+!Fw]1[!6k*2]!3js2j=k!h=ds1v=n!lsx!1;zd+d=f>d!q>f!tz5cs*j=k!",
   "mzR+>Hg!1n]d>n!8Rl(h!d(l!d(f!drf+8?(h!v)d!?=g!f)d!t=h!m+Dr!28hw3q!jws!gwn!lwp!fwm!3V!]7[!k",
   "]F*!2r(1t!f(>!n(3*!1!j7<!pj1l!fpdj5*xq(f!=m2k!3[)*!r**!rl2>!nnz*l!4lj2=!dj2l!djf!fjd!fjf!f",
   "jh!djr!djd!djhldjf!dj2d!djh!fjm!djl!dj!!djh!djj!djd!gjl!djBzmf!fj9fnf!fj1zxNr!vxj!dxv!12w(",
   ":!k)k!6=zl!dzx!fzl!dzf!dzj!j)1%!1d)d!3w=1s!g=t!f=p!h=f!9;(:!x=1[!j=d!Gw)1p!6<]1q!h]d!G;(l!",
   "d(h!d(f!d(v!dw6j!fww!1nz2q=d!hzp!hzf!Sx*2h!2r=1?!6fsh!ds]!dsf!dsd!fsd!dsp!dsh!dsd!dsd!ksd!",
   "hsd!dsd!dsd!dsg!dsf!dsd!fsd!dsd!dsd!dsd!dsd!dsf!dsd!fsh!dsl!dsh!dsh!dsd!dsp!dsx!jsg!dsj!ds",
   "x!1*sf!8tp1r!hp3h!rrv!frtwd!drv!drvw<!pqqwf>gq:*drdqdrqqdrdqdrfqdrgqdrgqjrmqdrlqdrpsf=d>gr",
   "nqdrdqfrfqdrpqhrfqdrpzz>d!1(r[qdrf!sq1frnzd!hqn!lrf!t+k!4[r1dwrxgrkwdr2kwdxfr*wrr1jwdrjwhx",
   "jwrrxwlxmr1:wdrdwdr5<wdrhwfxdr1%wfshwlxjr(wzzdw1nzdw2<rjsdrwsdrgsdrdsdrdsdrdsdrgsdrksfrhsd",
   "rdsfrhsdrrwfxfrqw1wr2kwpxdzf+f=d>f!h)d(gws!gwhzg+f*d=d>f!gr3*)g!h)jw2=*h)d!k=r!h(d!vwr!hw1",
   "(!mwp!kw1m!mw%!f>f]p!h]f!1%+r>d=gxnzk+dzm+mzd+fzr=dzr+d*gzv+s*j=d>d*h>f(d*d=d*hxjzs+k*q>f=",
   "k>g=f*p=kxd*f=m>d(d=g+>*)=2*!r*t!f=h>d)g=g(f!g=g>h)f]d!j]d=k>+(h)g>l(h)g]d)d>g(g]d!l)f>l(g",
   ")f]d!f]d(m)d]d!k(l)f!l>4+!d>1>]1j>p!10hffj19Q>>l(f!;q41=(h)d!kr6%!fx5Nf!t+79x!v[Mt!2FfjJ%!",
   "1G;ff>4Vq!j)42;!1R2tff!1cc%ff!1cc%ff!1cc%ff!1cc%ff!1cc%ff!1cc%ff!1cc%ff!1cc%ff!1cc%ff!1cc%",
   "ff!djd!%j2;!3;l7w!1cJtf400f"]

def upTo? (version : String) : Option CharSet :=
  (versions.findIdx? fun names => isNamed names version).map fun place =>
    readKinds table (List.range (place + 1))

end StringScript.Unicode.Age
