import StringScript.Unicode.Table

/-!
# Classes of text segmentation

The classes by which Unicode finds the borders of grapheme clusters, words and sentences.
-/

namespace StringScript.Unicode

/-- A partition of the code points into named classes. -/
structure Partition where
  names : List (List String)
  table : List String

def Partition.named? (p : Partition) (name : String) : Option CharSet :=
  (p.names.findIdx? fun classNames => isNamed classNames name).map fun place =>
    readKinds p.table [place]

def graphemeClusterBreak : Partition where
  names := [
    ["CR"],
    ["Control", "CN"],
    ["Extend", "EX"],
    ["L"],
    ["LF"],
    ["LV"],
    ["LVT"],
    ["Prepend", "PP"],
    ["Regional_Indicator", "RI"],
    ["SpacingMark", "SM"],
    ["T"],
    ["V"],
    ["ZWJ"]]
  table :=
    ["fpjdffddfzt2:f1dtsfdtLzg3wt8+glt8lg1stdgdtdgftdgftdgdt1(mktpgqtdfdt1tg=twgdt3jglmdtdgktfgf",
     "tdght1dmdtdgdt%g]t2]gqt1[gntngdt(ghtdgntdggtdgjt1qggt1*mftjgnt1pg(mdg;pdt1<gdpdgdtdpggmphg",
     "dpftdgltpgft?gdpft1(gdtdgdpfghtfpftfpfgdtngdtpgft[gdtfgfpdt1(gdtdpggfthgftfggtggdt%gftggdt",
     "qgfpdt1(gdtdpggjtdgfpdtdpfgdt*gft<gktdgdpft1(gdtdgfpdghtfpftfpfgdtlggtpgft%gdt1]gdpdgdpftg",
     "pgtdpggdtngdt1mgdpggdt1>gdtdggphtdggtdghtlgftqgft?gdpft1(gdtdpdgfpdgdpftdggtdghtlgftqgftvp",
     "dtrgfpft1>gftdgdpfghtdpgtdpggdmdtmgdtpgft?gdpft2kgdthgdpfggtdgdtdplgdtzpft1?gdtdpdgltrgmt3",
     "fgdtdpdgntqglt2ngft]gdtdgdtdgdthpft1xgtpdgjtdgftjgqtdg1htngdt3kghpdgktdgfpfgft>pfgfthggtwg",
     "htsgdtdpdgftkgdtvgdt3fh2;r2mq2(tB?ggtZzght!ggt?gft%gft1;gfpdglpmgdpfgqtngdt1sggfdgdt3=gft1",
     "fgdt3<ggphgfpgthpfgdpkggt6]gfpfgdt1)pdgdpdgltdgdtdgdtfgmpkgptfgdt1wg:t1xghpdt1vgpphggt1kgn",
     "trgfpdt%pdghpfgkt1(gdpdgfpggdpdgjt1wpmgmpfgft4(ggtdgspdglthgdtkgdtfpdgft6kg1;tJqfdgdsdfft(",
     "flt1xfwt2;g1dt2c%ggt4sgdt2;g;tKpgkt3ngftZG*ghtdgpt;gft2wgft8wgdtggdthgdt>pfgfpdthgdt2+pft1",
     "zpwgft[gztsgdt1kgmt)gqpdgdtrh?tgggpdt1vgdpfghpfgfpfgdt1hgdt2ggkpfgfpfgftrgdtmgdpdt1tgdt1+g",
     "dtdggtfgftjgftdgdt1npdgfpftjpdgdt7rpfgdpfgdpftdpdgdtzkdl]kdl]kdl]kdl]kdl]kdl]kdl]kdl]kdl]k",
     "dl]kdl]kdl]kdl]kdl]kdl]kdl]kdl]kdl]kdl]kdl]kdl]kdl]kdl]kdl]kdl]kdl]kdl]kdl]kdl]kdl]kdl]kdl",
     "]kdl]kdl]kdl]kdl]kdl]kdl]kdl]kdl]kdl]kdl]kdl]kdl]kdl]kdl]kdl]kdl]kdl]kdl]kdl]kdl]kdl]kdl]k",
     "dl]kdl]kdl]kdl]kdl]kdl]kdl]kdl]kdl]kdl]kdl]kdl]kdl]kdl]kdl]kdl]kdl]kdl]kdl]kdl]kdl]kdl]kdl",
     "]kdl]kdl]kdl]kdl]kdl]kdl]kdl]kdl]kdl]kdl]kdl]kdl]kdl]kdl]kdl]kdl]kdl]kdl]kdl]kdl]kdl]kdl]k",
     "dl]kdl]kdl]kdl]kdl]kdl]kdl]kdl]kdl]kdl]kdl]kdl]kdl]kdl]kdl]kdl]kdl]kdl]kdl]kdl]kdl]kdl]kdl",
     "]kdl]kdl]kdl]kdl]kdl]kdl]kdl]kdl]kdl]kdl]kdl]kdl]kdl]kdl]kdl]kdl]kdl]kdl]kdl]kdl]kdl]kdl]k",
     "dl]kdl]kdl]kdl]kdl]kdl]kdl]kdl]kdl]kdl]kdl]kdl]kdl]kdl]kdl]kdl]kdl]kdl]kdl]kdl]kdl]kdl]kdl",
     "]kdl]kdl]kdl]kdl]kdl]kdl]kdl]kdl]kdl]kdl]kdl]kdl]kdl]kdl]kdl]kdl]kdl]kdl]kdl]kdl]kdl]kdl]k",
     "dl]kdl]kdl]kdl]kdl]kdl]kdl]kdl]kdl]kdl]kdl]kdl]kdl]kdl]kdl]kdl]kdl]kdl]kdl]kdl]kdl]kdl]kdl",
     "]kdl]kdl]kdl]kdl]kdl]kdl]kdl]kdl]kdl]kdl]kdl]kdl]kdl]kdl]kdl]kdl]kdl]kdl]kdl]kdl]kdl]kdl]k",
     "dl]kdl]kdl]kdl]kdl]kdl]kdl]kdl]kdl]kdl]kdl]kdl]kdl]kdl]kdl]kdl]kdl]kdl]kdl]kdl]kdl]kdl]kdl",
     "]kdl]kdl]kdl]kdl]kdl]kdl]kdl]kdl]kdl]kdl]kdl]kdl]kdl]kdl]kdl]kdl]kdl]kdl]kdl]kdl]kdl]kdl]k",
     "dl]kdl]kdl]kdl]kdl]kdl]kdl]kdl]kdl]kdl]kdl]kdl]kdl]kdl]kdl]kdl]kdl]kdl]kdl]kdl]kdl]kdl]kdl",
     "]kdl]kdl]kdl]kdl]kdl]kdl]kdl]kdl]kdl]kdl]kdl]kdl]kdl]kdl]kdl]kdl]kdl]kdl]kdl]kdl]kdl]kdl]k",
     "dl]kdl]kdl]kdl]kdl]kdl]kdl]kdl]kdl]kdl]kdl]kdl]kdl]kdl]kdl]kdl]kdl]kdl]kdl]kdl]kdl]kdl]kdl",
     "]kdl]kdl]kdl]kdl]kdl]kdl]kdl]kdl]kdl]kdl]kdl]kdl]kdl]kdl]kdl]kdl]kdl]kdl]kdl]kdl]kdl]kdl]k",
     "dl]kdl]kdl]kdl]kdl]kdl]kdl]kdl]kdl]kdl]kdl]kdl]kdl]kdl]kdl]kdl]kdl]kdl]kdl]kdl]kdl]kdl]kdl",
     "]kdl]kdl]kdl]kdl]kdl]kdl]kdl]trr>thq1xt8TfgdtRdgwtwgwt6vfdt4%gft2wfrtJdgdt7fgdt4=gjt1Nkggt",
     "dgftjght1mggthgdt5jgftK?ght2dgjt9?gft2vght2kgqt1xght3[pdgdpdt1=gvt1ngdtfgftpggpdt1spgghpfg",
     "ftfmdthgdtpmdt1zggt1hgjpdgmtwpft1rgdtrgfpdt1wpggnpdgdtdmftjghtdpdgdt2!pgggpfghtkgdtfgdt4?g",
     "dpggmt=gfpft1>gftdgdpdgdphtfpftfpfgdtngdtppftfgltggjt2ggdpfgktdgdtfgdtdggpdtdpfggmdgdttgft",
     "2zpggmpfggpdgdt>gdt2xgdpfgkpdgdpfgdpdgfpdgft7qgdpfghtfphgfpdgft]gft2zpggmpfgdpdgft3pgdpdgd",
     "pfgmt3jgdpdgdtfghpdgjt7;pggnpdgft7=gdpjtdpftfghmdpdmdpdgdt4spgghtfgfphgdtgpdt!gpt1mgkpdmdg",
     "htmgdtngkpfggt1mmkgspdgftD=pdgltdgkpdgdt2zg<tdpdglpdgfpdgft3[gktggdtdgftdglmdgdt2fpjtdgftd",
     "pfgdpdgdtB]gfpftngfmdpdt1wpfgjtgpfggt>gdt56=fwgdtkgvtC6mgrpgggt2F;gjt1]gltKrrdtgrhtHhgdtdp",
     "1>tlght2xgdtqgftM5qgftdfht4L!g1ttfg>tJ%gjtggkfmgmtfglt%ght4*ggt1Z]g1>thg1ztmgdttgdt<gjtdgv",
     "t1Bwgltdgxtfgltdgftdgjt3hgdt4;gltC>gdt1?ghtH!ght7%gftQ;glt3sglt24]n[tH]gjtS2c;f;g2;f3;g7wf",
     "3Jwt5Wc;"]

def wordBreak : Partition where
  names := [
    ["ALetter", "LE"],
    ["CR"],
    ["Double_Quote", "DQ"],
    ["Extend"],
    ["ExtendNumLet", "EX"],
    ["Format", "FO"],
    ["Hebrew_Letter", "HL"],
    ["Katakana", "KA"],
    ["LF"],
    ["MidLetter", "ML"],
    ["MidNum", "MN"],
    ["MidNumLet", "MB"],
    ["Newline", "NL"],
    ["Numeric", "NU"],
    ["Regional_Indicator", "RI"],
    ["Single_Quote", "SQ"],
    ["WSegSpace"],
    ["ZWJ"]]
  table :=
    ["+pndsffd+zxd+dgd+hwd+hqd+drd+dtppdqd+jd[+hjd+dd[+psd+1hdd+fkd+ldd+dpd+fdd+jd>+dd:+ddG;+kd1",
     "fh3wdj+ddf+fdhqddd+kddpddg+ddd+dd*+dd2++dd4q+dhld5k+dd1k+fdh+dddpdd1nqddd+kh1s+dhd+dhf+dhf",
     "+dhd+ml]+hlhddpd+qtk+kqf+fhq+dkd+gd1qh=tp+dtdqd+ddfhdd3g+dddhltd+dhkdfhf+dhhdftpdg+fdd+vdf",
     "hdd%h]+fd2)hqdd+ttpd1dhndf+fqd+ddd+fhd+fd<hhddhnddhgddhj+zd)hg+hdq+jd(+ddk+dtf+jhnd1ph(tdh",
     "1dd1<hgddhzddhldphf+ftp+ddwhg+ddm+fdf+fd<+ddl+ddd+gdh+fhdddhl+fhf+fhgdd+mhd+hdf+ddghf+ftpd",
     "f+pdd+dhd+fhg+ddk+hdf+fd<+ddl+ddf+ddf+ddf+fhd+dhj+hhf+fhg+ghd+ldh+ddd+ltphfdghd+qhg+ddn+dd",
     "g+dd<+ddl+ddf+ddj+fhdddhm+dhg+dhg+fdd+vdfhf+ftp+nddhk+dhg+ddm+fdf+fd<+ddl+ddf+ddj+fhdddhl+",
     "fhf+fhg+lhg+hdf+ddghf+ftp+ddd+whddd+ddk+gdg+ddh+gdf+ddd+ddf+gdf+gdg+gdr+hhj+ghg+dhh+fdd+kh",
     "d+ttp+whjdm+ddg+dd>+ddw+fhdddhl+dhg+dhh+lhf+ddg+fdd+fdfhf+ftp+wddhg+ddm+ddg+dd>+ddp+ddj+fh",
     "dddhl+dhg+dhh+lhf+kdf+ddfhf+ftp+ddfhd+rhhdn+ddg+dd1nhfddhl+dhg+dhhdd+jdghd+ldghf+ftp+pdk+d",
     "hg+ddz+gd(+ddn+ddd+fdl+ghd+hhk+dhd+dhm+ktp+fhf+1?hd+fhl+rhm+dtp+2>hd+fhn+qhl+dtp+1kdd+>hf+",
     "ktp+qhd+dhd+dhd+hhfdm+dd1h+hh*+dhfdjhq+dh1h+nhd+3hh*+dtp+rhh+hhg+dhg+fhl+ghh+shr+dhdtphh+f",
     "d1k+ddd+jdd+fd1q+ddBs+ddh+fdl+ddd+ddh+fd1n+ddh+fd1d+ddh+fdl+ddd+ddh+fdv+dd1)+ddh+fd2g+fhg+",
     ";dw+wd2<+fdk+gdMr+fdxxdd[+jd2q+gdq+ldzhh+nd+hg+qdzhf+rds+ddg+dhf+1;h;+nhd+ftp+1dhgkdhdtp+k",
     "d2)+ldjhfd1fhddd+jd2k+pd:+dhr+hhr+ptp+3;tq+1jd>hj+1)hp+dh?+fhdtp+ktp+<h:+1xhjd1vhxdm+gtp+x",
     "hn+rhgd%hsdftpd1rht+rd1hh*+mtp+gdgtpd1h+fdq+jd1q+fdg+whg+dh=dhhddkhddfhgdd+jd5;h1;d8<+fdk+",
     "fd1k+fdk+fdm+ddd+ddd+ddd+dd:+fd1=+ddl+ddd+gdg+ddl+gdh+fdk+hds+jdg+ddl+gxl+dxg+dhdzdkf+mrf+",
     "prd+fpdsfkjjd+vjf+gqd+vjd+pxdkj+dkp+ddd+sdd+wds+1+h1d+xdd+hdd+fdp+ddd+gdj+kdd+ddd+ddd+ddh+",
     "ddq+fdh+jdj+hdd+xd1n+Tsd1*+1S<d7j+kdhhgdf+rd1k+ddd+jdd+fd1(+ldd+vhdd>+ndl+ddl+ddl+ddl+ddl+",
     "ddl+ddl+ddl+dh;+1vdd+Gwxd+hdd+1hhk+dmj+jdf+2!hfmf+gm2]+dmh+jd1q+dd2%+xd;+1wmw+6wm1v+dm2(+W",
     "5md14s+2gd1t+fd8s+gdwtpdf+*d1vhh+dhp+dd:hfd2whf+<d6k+fdf+ddd+ddm+=dwhddghddhhdd>hj+hhd++d1",
     "*+rhfd1zhz+ptp+khzdk+gdd+ddfhdtpd!hm+fd>hs+rd?+ghhd1vht+tddtp+qhd+ptp+kd1nht+ndghddmhf+ftp",
     "+1dhg+1zhd+dhg+fhf+jhf+dhd+%dqhj+fdghf+pdk+fdk+fdk+ndl+ddl+dd1[+kd3+hm+dhf+ftp+kdBZh+rd>+h",
     "d1x+8Shdl+rdj+jldhdlp+dls+dlj+dld+dlf+dlf+dlpd3f+1ddCq+zd1;+fd1<+1mdr+hhw+gpd+rhw+gjf+(jgq",
     "d+drd+dqdpd+[dj+dd4l+fkd+lrd+hqd+drd+dtppdqd+jd[+hjd+dd[+qm1(hfd:+gdk+fdk+fdk+fdg+!kg+hdr+",
     "dd[+dd++ddf+ddv+fdt+1fd3]+2jd1=+4mhd+4fd?+gd1x+vhd+:d;+sd%+jd1khj+jd%+fd1h+hdm+ddj+1pd4%+f",
     "tp+kd1h+hd1h+hd1m+md1*+rdq+ddv+ddl+ddf+ddq+ddv+ddl+ddf+gd1*+rd9>+nd<+pdm+(dk+dd1p+ddn+2jdk",
     "+fdd+dd1r+ddf+gdd+fd>+pd>+nd:+2dd++ddf+pd<+pd[+2kd1(+kdf+1;ddhg+dhf+jhhdh+ddg+dd?+fhg+hhd+",
     ";d?+gd?+1gdm+dd!hf+)d1<+pd<+pd++sdz+3td2n+1>d1++sd1++sd1hhh+mtp+ktpd!+ghj+dd>+7[d1p+dhf+gd",
     "f+wdg+1>hhd?+pdd+md<hq+:dzhh+1pd=+]d>+nhgd1=hv+:tphddfhfdd+nhhd1shq+ftd+hhd+ptd+fd)+ltp+kh",
     "gd1hht+dtp+hddhfdd+md1ghd+fdd+nhgd1whtdh+hhh+dhftpdd+ddd+1gdz+dd)hr+khddfhd+1%dl+ddd+ddh+d",
     "dv+ddp+ld1vhr+jtp+khh+ddm+fdf+fd<+ddl+ddf+ddj+dhfddhl+fhf+fhg+fdd+khd+jdjhf+fhl+ghj+qdp+dd",
     "d+fdd+dd1k+dddhn+dhd+fhd+dhh+dhjddhddd+shf+?d1=hzdh+jtp+hhddg+%d1wh*df+ddd+mtp+5kd1vhl+fhn",
     "+>dhhf+1fd1whx+gdd+qtp+1kd1qhsdd+ltp+kt*+1)hv+htp+6kd1rhv+3jd1;tp+=dm+fdd+fdm+ddf+dd(hk+dh",
     "f+fhhddhdddhf+rtp+2kdm+fd1lhl+fhldd+dddhd+]ddhpd1mhlddhh+mhd+mddhqd1thw+gdd+zd2n+6ld1d+vtp",
     "+kdn+dd1jhm+dhmdd+vtp+(d%+fh<+dht+2ndl+ddf+dd1khk+ghd+dhf+dhlddhd+mtp+kdk+ddf+dd;hj+dhf+dh",
     "jdd+ltp+9<d+hh+nhfddhdds+dd1fhl+ghj+stphd+2=dd+2vdX[+3kd3v+xd6h+2Lrd3d+vd11wkwhddkhv+pd3X]",
     "+jdLl+6P)d%hztp+1QkdK)+ld:+dtp+kd2v+dtp+kd%+fhj+qd1whl+ndh+rtp+nd=+jd++Fwd1s+gtp+6kd1;+3;d",
     "2q+hhdddh1>+lhhds+1;df+dddhd+qhf+Hc%mh+dml+dmf+dmd+8:mg+1zmd+tmh+2N(d3q+jds+gdn+ldp+ghf+dk",
     "h+42rtp+Jkh1t+fh>+J%hj+ghkkmhm+fhl+%hh+4*hg+F]d2=+dd2l+ddf+fdd+fdf+fdh+ddr+ddd+ddl+dd2d+dd",
     "h+fdm+ddl+dd!+ddh+ddj+ddd+gdl+ddB*+fd)+dd)+dd:+dd)+dd:+dd)+dd:+dd)+dd:+dd)+ddm+ft1z+H;h1>+",
     "hh1z+mhd+thd+<hj+dhv+12wd:+kdk+6=hl+dhx+fhl+dhf+dhj+jd1%+1dhd+3wd1s+ghldl+ftp+hdd+Bdd%hd+x",
     "d1rhhtp+G<d!hhtp+6<d%hfddtp+Hjdl+ddh+ddf+ddv+dd6j+qhl+1nd2hhldd+htp+15kdh+dd]+ddf+ddd+fdd+",
     "ddp+ddh+ddd+ddd+kdd+hdd+ddd+ddd+ddg+ddf+ddd+fdd+ddd+ddd+ddd+ddd+ddf+ddd+fdh+ddl+ddh+ddh+dd",
     "d+ddp+ddx+jdg+ddj+ddx+M*d[+kd[+kd[+2!v[+H]hj+1cwtp+S10lkd+%h2;+3;h7w+5cJw"]

def sentenceBreak : Partition where
  names := [
    ["ATerm", "AT"],
    ["CR"],
    ["Close", "CL"],
    ["Extend", "EX"],
    ["Format", "FO"],
    ["LF"],
    ["Lower", "LO"],
    ["Numeric", "NU"],
    ["OLetter", "LE"],
    ["SContinue", "SC"],
    ["STerm", "ST"],
    ["Sep", "SE"],
    ["Sp", "SP"],
    ["Upper", "UP"]]
  table :=
    ["vnsdkdsffdvzsdqdgdvhggvfpfddvdmppfvgqdvdt[gdvdgdvgl[gdvdgdvlrdv[sdvnldgdvdjdvlldvhldgdvht>",
     "vdtll(vdlmtdldtdldtdldtdldtdldtdldtdldtdldtdldtdldtdldtdldtdldtdldtdldtdldtdldtdldtdldtdld",
     "tdldtdldtdldtdldtdldtdldtdldtdlftdldtdldtdldtdldtdldtdldtdldtdlftdldtdldtdldtdldtdldtdldtd",
     "ldtdldtdldtdldtdldtdldtdldtdldtdldtdldtdldtdldtdldtdldtdldtdldtdldtfldtdldtdlgtfldtdldtfld",
     "tglfthldtfldtglgtfldtfldtdldtdldtfldtdlftdldtfldtgldtdldtflfndtdlgnhtfldtfldtfldtdldtdldtd",
     "ldtdldtdldtdldtdldtdlftdldtdldtdldtdldtdldtdldtdldtdldtdlftfldtdldtgldtdldtdldtdldtdldtdld",
     "tdldtdldtdldtdldtdldtdldtdldtdldtdldtdldtdldtdldtdldtdldtdldtdldtdldtdldtdldtdldtdldtdldtd",
     "ldtdlltfldtflftdldthldtdldtdldtdldtdl2jndl1hnllfvhnrvtljvlndvdndvxh3wtdldtdldndvdtdldvflhp",
     "dtdvktdvdtgvdtdvdtfldtxvdtnl1gtdlftglgtdldtdldtdldtdldtdldtdldtdldtdldtdldtdldtdldtdljtdld",
     "vdtdldtflft1+l1wtdldtdldtdldtdldtdldtdldtdldtdldtdldtdldtdldtdldtdldtdldtdldtdldtdldvdhltd",
     "ldtdldtdldtdldtdldtdldtdldtdldtdldtdldtdldtdldtdldtdldtdldtdldtdldtdldtdldtdldtdldtdldtdld",
     "tdldtdldtdldtdldtfldtdldtdldtdldtdldtdldtdlftdldtdldtdldtdldtdldtdldtdldtdldtdldtdldtdldtd",
     "ldtdldtdldtdldtdldtdldtdldtdldtdldtdldtdldtdldtdldtdldtdldtdldtdldtdldtdldtdldtdldtdldtdld",
     "tdldtdldtdldtdldtdldtdldtdldtdldtdldtdldtdldtdldtdldtdldvdt1kvfndvgpdvfl1nqdvlh1svdhdvdhfv",
     "dhfvdhdvmn]vhnjvrmkvkpfvfhqvdjdqgn1qh=mpvdmfvdnfhdn3gqdndhlmdvdhknfhfvdhhnfmpngvfndqgvrjdn",
     "dhdn%h]vfn2)hqndvtmpn1dhnnfvfpdqdndvfhdvfn<hhndhnndhgndhjvnqdvdqdvgqfvdn)hgvhnqvjn(vdnkvdm",
     "fvjhnn1ph(mdh1dn1<hgndhzndhlnphfqfmpvdnwhgvdnmvfnfvfn<vdnlvdndvgnhvfhdndhlvfhfvfhgndvmhdvh",
     "nfvdnghfvfmpnfvpndvdhdvfhgvdnkvhnfvfn<vdnlvdnfvdnfvdnfvfhdvdhjvhhfvfhgvghdvlnhvdndvlmphfng",
     "hdvqhgvdnnvdngvdn<vdnlvdnfvdnjvfhdndhmvdhgvdhgvfndvvnfhfvfmpvnndhkvdhgvdnmvfnfvfn<vdnlvdnf",
     "vdnjvfhdndhlvfhfvfhgvlhgvhnfvdnghfvfmpvdndvwhdndvdnkvgngvdnhvgnfvdndvdnfvgnfvgngvgnrvhhjvg",
     "hgvdhhvfndvkhdvtmpvwhjnmvdngvdn>vdnwvfhdndhlvdhgvdhhvlhfvdngvfndvfnfhfvfmpvwndhgvdnmvdngvd",
     "n>vdnpvdnjvfhdndhlvdhgvdhhvlhfvknfvdnfhfvfmpvdnfhdvrhhnnvdngvdn1nhfndhlvdhgvdhhndvjnghdvln",
     "ghfvfmpvpnkvdhgvdnzvgn(vdnnvdndvfnlvghdvhhkvdhdvdhmvkmpvfhfvsn1whdnfhlvjnlhmvdmpv1lnfvdndv",
     "dnjvdn(vdndvdnphdnfhnndvfnjvdndvdhlvdmpvfnhv;ndv>hfvkmpvqhdvdhdvdhdghhfnmvdn1hvhh*vdhfnjhq",
     "vdh1hvnhdv1)n1qh*ndmpqfvhnkhhnhhgndhgnfhlnghhnshrndhdmphhvft1kvdtdvjtdvfn1qvdldnBrvdnhvfnl",
     "vdndvdnhvfn1nvdnhvfn1dvdnhvfnlvdndvdnhvfnvvdn1)vdnhvfn2gvfhgvfqdvhqfv>nwvwt2<vflkvgnMrvdqd",
     "nxsdn[gfvgn2qvgnqvlnzhhvnn+hgqfvnnzhfvrnsvdngvdhfvrn1*h;qfvdndvhndhdvfmpv(pdqdvhpdqdvdhgjd",
     "hdmpvkn2)vlnjhfn1fhdndvjn2kvpn:vdhrvhhrvmqfmpn%vfnjvqn1rvhn[vkmqv1jn>hjvhn1=hpvdh?vfhdmpvk",
     "mpvsndqhvhh:v1xhjn1vhxnmvdqfmpqfvfqfvqhnvnqghgn%hsnfmpn1rhtvrn1hh*vgqfvgmpvgngmpn1hqflntdl",
     "dvjn1qvfngvwhgvdh=nhhdnkhdnfhgndvjl5;h1;tdldtdldtdldtdldtdldtdldtdldtdldtdldtdldtdldtdldtd",
     "ldtdldtdldtdldtdldtdldtdldtdldtdldtdldtdldtdldtdldtdldtdldtdldtdldtdldtdldtdldtdldtdldtdld",
     "tdldtdldtdldtdldtdldtdldtdldtdldtdldtdldtdldtdldtdldtdldtdldtdldtdldtdldtdldtdldtdldtdldtd",
     "ldtdldtdldtdldtdldtdldtdldtdldtdldtdldtdldtdldtdldtdldtdldtdldtdldtdlntdldtdldtdldtdldtdld",
     "tdldtdldtdldtdldtdldtdldtdldtdldtdldtdldtdldtdldtdldtdldtdldtdldtdldtdldtdldtdldtdldtdldtd",
     "ldtdldtdldtdldtdldtdldtdldtdldtdldtdldtdldtdldtdldtdldtdldtdldtdldtdldtdldtdldtdldtdlntmlk",
     "vftkvflmtmlmtmlkvftkvflmvdtdvdtdvdtdvdtdlmtmltvflmtmlmtmlmtmljvdlftjvdldvglgvdlftjvglhvflf",
     "thvhlmtjvjlgvdlftjvgsqjdhfjfvgpfvggmvhddvgrfjjsdvngfvdqfvlgfqgv=sdjjvdjpvdldvqgfldvsgfvdls",
     "v1+h1dvxtdvhtdvfldtglftgldvdtdvgtjvktdvdtdvdtdvdthvdldthldnhldvflftfvjtdlhvhldvxtwlwngtdld",
     "nhvC:ghv?gfvDqt[l[vMxgkvlgtv2vgfv:gpvD+g<v1:ghv;gfvJft1wl1wtdldtglftdldtdldtdldthldtdlftdl",
     "mtgldtdldtdldtdldtdldtdldtdldtdldtdldtdldtdldtdldtdldtdldtdldtdldtdldtdldtdldtdldtdldtdldt",
     "dldtdldtdldtdldtdldtdldtdldtdldtdldtdldtdldtdldtdldtdldtdldtdldtdldtdldtdldtdldtdldtdldtdl",
     "dtdldtdldtdldtdldtdlfvktdldtdldhgtdldvjqgvhl1kvdldvjldvfn1(vlndvvhdn>vnnlvdnlvdnlvdnlvdnlv",
     "dnlvdnlvdnlvdh;gtvtgfvfgpvhqdndvrqdvjgdvwqfgmvFgsdpdqdvfnggpvfgmvdggvdnnhkvdnjvfnjvhn2<vfh",
     "fvfngvdn2[vdnhvjn1qvdn2%vxn;v1wnwvH;n6F;v1;nPNsv2gn1tvdqdn8svdqfnwmpnfv*tdldtdldtdldtdldtd",
     "ldtdldtdldtdldtdldtdldtdldtdldtdldtdldtdldtdldtdldtdldtdldtdldtdldtdldtdldndhhvdhpvdndtdld",
     "tdldtdldtdldtdldtdldtdldtdldtdldtdldtdldtdldtdldtdlghfn2whfvdqdvgqdv:nnvftdldtdldtdldtdldt",
     "dldtdldtdlgtdldtdldtdldtdldtdldtdldtdldtdldtdldtdldtdldtdldtdldtdldtdldtdldtdldtdldtdldtdl",
     "dtdldtdldtdldtdldtdldtdldtdldtdldtdldtdldtdlptdldtdldtfldtdldtdldtdldtdldndvftdldtdldndtdl",
     "dtdlgtdldtdldtdldtdldtdldtdldtdldtdldtdldtdldtjldtjldtdldtdldtdldtdldtdldtdldtdldthldtdldt",
     "fldvftdldvdldvdldtdldtdldtdldtdv=lgtdldndlgnlhdnghdnhhdn>hjvhhdv+n1*vfqfvmhfn1zhzvmqfmpvkh",
     "znkvgndvdnfhdmpn!hmvdqdn>hsvrn?vghhn1vhtvlqfvjndmpvknjhdnpmpnjvdn1nhtvnnghdnmhfvfmpvgqgn>v",
     "gndhgn1zhdndhgnfhfnjhfndhdndv(ngvfnqhjqfnghfvpnkvfnkvfnkvnnlvdnlvdl1qvdltvkl2wn1ghmqdhfvfm",
     "pvknBZhvrn>vhn1xv88hnCtvfn3pv1kllvrljvjndhdnpvdnsvdnjvdndvdnfvdnfvdn3rv1dnCqgfvwn1;vfn1<v1",
     "mnrvhhwpfqdpfqfgfvlhwvdpfvfgwvfgfvlpfddvdpfqfpdgkvhpdvrnjvdn4lvfjdvdqdvkgfvfpfddvdmppfvgqd",
     "vdt[gdvdgdvgl[gdvdgdvdgfqdgfpdvdn1(hfn:vgnkvfnkvfnkvfngv!jgvhnrvdn[vdn+vdnfvdnvvfntv1fn3]v",
     "2jn1=v4mhdv4fn?vgn1xvvhdv:n;vsn%vjn1khjvjn%vfn1hvhnmvdnjv1pt1ml1mn2tvfmpvkt1hvhl1hvhn1mvmn",
     "1*vrtqvdtvvdtlvdtfvdlqvdlvvdllvdlfvgn1*vrn9>vnn<vpnmv(ldnflgvdl1pvdlnv2jnkvfndvdn1rvdnfvgn",
     "dvfn>vpn>vnn:v2dn+vdnfvpn<vpn[v2kn1(vknfv1;ndhgvdhfvjhhnhvdngvdn?vfhgvhhdv<qfvmn?vgn?v1gnm",
     "vdn!hfv)n1<vpn<vpn+vsnzv3tn2nv1>t1+vsl1+vsn1hhhvmmpvkmpnkt<vghjvdndl<v7[n1pvdhfvgnfvwngv1>",
     "hhn?vpndvmn<hqvhqjv<nzhhqhv1kn=v]n>vnhgn1=hvqfv?mphdnfhfndvnhhn1shqvfmdqhhdvpmdvfn)vlmpvkh",
     "gn1hhtvdmpvdqgndhfndvmn1ghdvfndvnhgn1whtnhqfvfhhqdhfmpndvdndvdqfv;nzvdn)hrqfvdqfvdhdnfhdv1",
     "%nlvdndvdnhvdnvvdnpqdvkn1vhrvjmpvkhhvdnmvfnfvfn<vdnlvdnfvdnjvdhfndhlvfhfvfhgvfndvkhdvjnjhf",
     "vfhlvghjvqnpvdndvfndvdn1kvdndhnvdhdvfhdvdhhvdhjndhdndqfvqhfv?n1=hznhqfvgmpvhhdngv%n1wh*nfv",
     "dndvmmpv5kn1vhlvfhnvdqfvjqvnhhfv1fn1whxqfvdndvqmpv1kn1qhsndvlmpvkm*v!n]vfhvvhmpvfqgvdnlv5)",
     "n1rhvv3jt;l;mpv=nmvfndvfnmvdnfvdn(hkvdhfvfhhndhdndhfqdvdqdvnmpv2knmvfn1lhlvfhlndvdndhdv]nd",
     "hpn1mhlndhhvgqfvghdvmndhqn1thwvdqfndvzn2nv6ln1dvvmpvknnvdn1jhmvdhmndqfvsmpv(n%vfh<vdhtv2nn",
     "lvdnfvdn1khkvghdvdhfvdhlndhdvmmpvknkvdnfvdn;hjvdhfvdhjndvlmpv9<n+hhqfvlhfndhdnsvdn1fhlvghj",
     "qfvqmphdv2=ndv2vnX[v3kn3vvxn6hv2Lrn3dvvn11wjwhdnkhvvpn3X]vjnLlv6P)n%hzmpv1QknK)vln:vdmpvhq",
     "fn2vvdmpvkn%vfhjqdvpn1whlqfvlnhqdvqmpvnn=vjn+vFwn1svdqfmpv6kt;l;v(qdv3ln2qvhhdndh1>vlhhnsv",
     "1;nfvdndhdvqhfvtn5c(vmn16<v1nnpv8Rlnhvdnlvdnfvdn9gvvndv?ngvfndvtnhvmnDrv28hn3qvjnsvgnnvlnp",
     "vghfqdjhv42rmpvJkh1tvfh>vJ%hjvghkjmhmvfhlv%hhv4*hgvF]t[l[t[llvdlzt[l[tdvdtfvftdvftfvfthvdt",
     "mlhvdldvdllvdlqt[l[tfvdthvftmvdtlvdl[tfvdthvdtjvdtdvgtlvdl[t[l[t[l[t[l[t[l[t[l[t[l!vft)vdl",
     ")vdlkt)vdl)vdlkt)vdl)vdlkt)vdl)vdlkt)vdl)vdlktdldvfm1zvH;h1>vhh1zvmhdvthdvgqdvzhjvdhvv12wl",
     "pndl*vklkv6=hlvdhxvfhlvdhfvdhjvjl1%v1dhdv3wn1svghlnlvfmpvhndvBdn%hdvxn1rhhmpvG<n!hhmpv6<n%",
     "hfndmpvHjnlvdnhvdnfvdnvvdn6jvqhlv1nt1fl1fhlndvhmpv15knhvdn]vdnfvdndvfndvdnpvdnhvdndvdndvkn",
     "dvhndvdndvdndvdngvdnfvdndvfndvdndvdndvdndvdndvdnfvdndvfnhvdnlvdnhvdnhvdndvdnpvdnxvjngvdnjv",
     "dnxvM*t[vkt[vkt[v17rggv1C>mpv10kn19Q;v;n41[vkn6%vfn5Nfvtn79xvvnMtv2FfnJ%v1Hfn4Vqvjn42;vPR2",
     "xjdv%h2;v3;h7wv5cJw"]

end StringScript.Unicode
